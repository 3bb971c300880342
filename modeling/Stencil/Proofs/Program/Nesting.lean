import Stencil.Program.Emit
import Stencil.Proofs.Step

/-!
# Blocks and sections

A program is emitted above one stack of open blocks, which the nodes of a section share with the nodes around it.  Behind
a section the number of open blocks is checked, not which blocks they are.

* `Builder.opened` — the open blocks, whether or not something was put into them.
* `Comes` — emitting nodes comes to a node, at any depth inside sections; `IsSection` — to a section.
* `Escapes` — a node of a section closes or goes on with a block that was opened outside it.
* `Nests` — blocks nest: what is opened is closed among the same nodes, and a section stands by itself.
* `nests_iff` — blocks nest exactly if the nodes are accepted and no section escapes; what a section that does not escape
  leaves open is what was open before it; and all other nodes are refused for their blocks.
-/

namespace Stencil

/-- A cause that says that blocks do not nest. -/
def Cause.unbalanced : Cause → Bool
  | .strayMiddle _ | .strayClose _ | .mismatchedClose .. | .openBlock .. => true
  | _ => false

namespace Program

/-! ## The open blocks -/

namespace Builder

/-- The open blocks, innermost first, whether or not something was put into them. -/
def opened (b : Builder) : List Block := b.blocks.map fun block => { block with filled := false }

/-- The kinds of the open blocks. -/
def kinds (b : Builder) : List Text := b.opened.map Block.kind

theorem depth_eq (b : Builder) : b.depth = b.opened.length := by simp [depth, opened]

theorem kinds_length (b : Builder) : b.kinds.length = b.depth := by simp [kinds, depth_eq]

theorem kinds_eq (b : Builder) : b.kinds = b.blocks.map Block.kind := by simp [kinds, opened, Function.comp_def]

@[simp] theorem opened_add (code : Text) (line : Int) (b : Builder) : (b.add code line).opened = b.opened := by
  obtain ⟨t, lines, _ | ⟨block, outer⟩⟩ := b
  · rfl
  · by_cases h : isRemark code <;> simp [add, opened, fill, h]

@[simp] theorem opened_addAll (codes : List Text) (line : Int) (b : Builder) : (b.addAll codes line).opened = b.opened := by
  induction codes generalizing b with
  | nil => rfl
  | cons code codes ih => exact (ih _).trans (opened_add ..)

@[simp] theorem opened_pad (line : Int) (b : Builder) : (b.pad line).opened = b.opened := by
  unfold pad
  split
  · split
    · rfl
    · exact opened_add ..
  · rfl

@[simp] theorem opened_openBlock (kind header directive : Text) (line : Int) (b : Builder) :
    (b.openBlock kind header directive line).opened = ⟨kind, directive, line, false⟩ :: b.opened := by
  have h := opened_add header line b
  simp only [openBlock, opened] at h ⊢
  rw [List.map_cons, h]

@[simp] theorem opened_flush (p : Pending) (b : Builder) : (flush p b).opened = b.opened := by
  unfold flush
  split
  · rfl
  · exact opened_add ..

/-- The innermost block goes on if it is of one of the kinds; everything else is refused. -/
theorem middle_cases (allowed : List Text) (header directive : Text) (line : Int) (b : Builder) :
    (∃ c, b.middle allowed header directive line = .ok c ∧ c.opened = b.opened ∧
      ∃ kind outer, b.kinds = kind :: outer ∧ kind ∈ allowed) ∨
    ((¬ ∃ kind outer, b.kinds = kind :: outer ∧ kind ∈ allowed) ∧
      ∃ e, b.middle allowed header directive line = .error e ∧ e.cause.unbalanced) := by
  cases hb : b.blocks with
  | nil => exact .inr ⟨by simp [kinds_eq, hb], _, by rw [middle, hb]; rfl, rfl⟩
  | cons block outer =>
    by_cases hk : block.kind ∈ allowed
    · have hopened : ({ b.pad line with blocks := outer }.add header line).opened =
          outer.map fun block => { block with filled := false } := opened_add ..
      refine .inl ⟨_, by rw [middle, hb]; exact if_pos hk, ?_, _, _, by rw [kinds_eq, hb]; rfl, hk⟩
      simp only [opened, hb, List.map_cons] at hopened ⊢
      rw [hopened]
    · refine .inr ⟨?_, _, by rw [middle, hb]; exact if_neg hk, rfl⟩
      rintro ⟨kind, kinds, hkinds, hkind⟩
      rw [kinds_eq, hb, List.map_cons, List.cons.injEq] at hkinds
      exact hk (hkinds.1 ▸ hkind)

/-- The innermost block is closed if it is of the kind; everything else is refused. -/
theorem closeBlock_cases (kind directive : Text) (line : Int) (b : Builder) :
    (∃ c, b.closeBlock kind directive line = .ok c ∧ c.opened = b.opened.tail ∧ ∃ outer, b.kinds = kind :: outer) ∨
    ((¬ ∃ outer, b.kinds = kind :: outer) ∧
      ∃ e, b.closeBlock kind directive line = .error e ∧ e.cause.unbalanced) := by
  cases hb : b.blocks with
  | nil => exact .inr ⟨by simp [kinds_eq, hb], _, by rw [closeBlock, hb]; rfl, rfl⟩
  | cons block outer =>
    by_cases hk : block.kind = kind
    · refine .inl ⟨_, by rw [closeBlock, hb]; exact if_pos hk, ?_, outer.map Block.kind, ?_⟩
      · simp [opened, hb]
      · rw [kinds_eq, hb, List.map_cons, hk]
    · refine .inr ⟨?_, _, by rw [closeBlock, hb]; exact if_neg hk, rfl⟩
      rintro ⟨kinds, hkinds⟩
      rw [kinds_eq, hb, List.map_cons, List.cons.injEq] at hkinds
      exact hk hkinds.1

/-- More open blocks than a number are refused. -/
theorem checkClosed_cases (depth : Nat) (place : Text) (b : Builder) :
    (b.checkClosed depth place = .ok () ∧ b.depth ≤ depth) ∨
    (depth < b.depth ∧ ∃ e, b.checkClosed depth place = .error (.compile e) ∧ e.cause.unbalanced) := by
  cases hb : b.blocks with
  | nil => exact .inl ⟨by rw [checkClosed, hb]; exact if_neg (by omega), by simp [Builder.depth, hb]⟩
  | cons block outer =>
    by_cases hd : b.depth ≤ depth
    · refine .inl ⟨?_, hd⟩
      rw [checkClosed, hb]
      exact if_neg (by omega)
    · refine .inr ⟨by omega, ⟨.openBlock block.directive place, b.template, some block.line, none⟩, ?_, rfl⟩
      rw [checkClosed, hb]
      exact if_pos (by omega)

end Builder

variable {b c : Builder} {p q : Pending} {template : Option Text} {node : Node} {nodes body : List Node} {line : Int}
  {kinds base : List Text}

/-! ## What a node does to the open blocks -/

/-- The builder in which the body of a section is emitted. -/
def sectionStart (p : Pending) (b : Builder) (line : Int) (name : Text) : Builder :=
  (flush p b).add ("_view.start_section(" ++ name ++ ")") line

@[simp] theorem opened_sectionStart (p : Pending) (b : Builder) (line : Int) (name : Text) :
    (sectionStart p b line name).opened = b.opened := by simp [sectionStart]

@[simp] theorem depth_sectionStart (p : Pending) (b : Builder) (line : Int) (name : Text) :
    (sectionStart p b line name).depth = b.depth := by simp [Builder.depth_eq]

/-- A section whose body is emitted is refused if it leaves more blocks open than there were. -/
theorem captured_cases {name : Text} {inner : Builder} (label : Text)
    (h : emitNodes {} (sectionStart p b line name) body = .ok (q, inner)) :
    (inner.depth ≤ b.depth ∧
      emitNode p b (.captured line name label body) = .ok ({}, (flush q inner).add "_view.end_section()" line)) ∨
    (b.depth < inner.depth ∧
      ∃ e, emitNode p b (.captured line name label body) = .error (.compile e) ∧ e.cause.unbalanced) := by
  have hdepth : (flush q inner).depth = inner.depth := by simp [Builder.depth_eq]
  have hemit : emitNode p b (.captured line name label body) =
      ((flush q inner).checkClosed (sectionStart p b line name).depth (" inside section '" ++ label ++ "'") >>=
        fun _ => .ok ({}, (flush q inner).add "_view.end_section()" line)) := by
    rw [emitNode, ← sectionStart, h]
    rfl
  rw [hemit]
  rcases (flush q inner).checkClosed_cases (sectionStart p b line name).depth (" inside section '" ++ label ++ "'") with
    ⟨hok, hle⟩ | ⟨hlt, e, he, hcause⟩
  · rw [hok]
    rw [hdepth, depth_sectionStart] at hle
    exact .inl ⟨hle, rfl⟩
  · rw [he]
    rw [hdepth, depth_sectionStart] at hlt
    exact .inr ⟨hlt, e, rfl, hcause⟩

/-- What a node that is emitted does to the open blocks. -/
def Follows (p : Pending) (b c : Builder) : Node → Prop
  | .openBlock line kind _ directive _ => c.opened = ⟨kind, directive, line, false⟩ :: b.opened
  | .middle _ allowed _ _ => c.opened = b.opened ∧ ∃ kind outer, b.kinds = kind :: outer ∧ kind ∈ allowed
  | .closeBlock _ kind _ _ => c.opened = b.opened.tail ∧ ∃ outer, b.kinds = kind :: outer
  | .captured line name _ body => ∃ q inner, emitNodes {} (sectionStart p b line name) body = .ok (q, inner) ∧
      inner.depth ≤ b.depth ∧ c.opened = inner.opened
  | .empty _ => False
  | _ => c.opened = b.opened

theorem emitNode_follows (h : emitNode p b node = .ok (q, c)) : Follows p b c node := by
  cases node with
  | text line s =>
    obtain ⟨-, rfl⟩ := Prod.mk.inj (Except.ok.inj h)
    exact rfl
  | verbatim line s =>
    obtain ⟨-, rfl⟩ := Prod.mk.inj (Except.ok.inj h)
    exact rfl
  | echo line expr escape =>
    obtain ⟨-, rfl⟩ := Prod.mk.inj (Except.ok.inj h)
    simp [Follows]
  | statement line code =>
    obtain ⟨-, rfl⟩ := Prod.mk.inj (Except.ok.inj h)
    simp [Follows]
  | comment line s =>
    obtain ⟨-, rfl⟩ := Prod.mk.inj (Except.ok.inj h)
    simp [Follows]
  | openBlock line kind header directive prologue =>
    obtain ⟨-, rfl⟩ := Prod.mk.inj (Except.ok.inj h)
    simp [Follows]
  | middle line allowed header directive =>
    rcases (flush p b).middle_cases allowed header directive line with ⟨d, hd, hopened, hkind⟩ | ⟨-, e, he, -⟩
    · rw [emitNode, hd] at h
      obtain ⟨-, rfl⟩ := Prod.mk.inj (Except.ok.inj h)
      have hfollows := And.intro hopened hkind
      simpa [Follows, Builder.kinds] using hfollows
    · rw [emitNode, he] at h
      cases h
  | closeBlock line kind directive epilogue =>
    rcases (flush p b).closeBlock_cases kind directive line with ⟨d, hd, hopened, hkind⟩ | ⟨-, e, he, -⟩
    · rw [emitNode, hd] at h
      obtain ⟨-, rfl⟩ := Prod.mk.inj (Except.ok.inj h)
      have hfollows := And.intro hopened hkind
      simpa [Follows, Builder.kinds] using hfollows
    · rw [emitNode, he] at h
      cases h
  | captured line name label body =>
    obtain ⟨⟨r, inner⟩, hbody, -⟩ := bind_eq_ok.mp h
    rcases captured_cases label hbody with ⟨hle, hok⟩ | ⟨-, e, he, -⟩
    · rw [hok] at h
      obtain ⟨-, rfl⟩ := Prod.mk.inj (Except.ok.inj h)
      exact ⟨r, inner, hbody, hle, by simp⟩
    · rw [he] at h
      cases h
  | empty line => cases h

theorem emitNodes_cons :
    emitNodes p b (node :: nodes) = .ok (q, c) ↔
      ∃ p' b', emitNode p b node = .ok (p', b') ∧ emitNodes p' b' nodes = .ok (q, c) := by
  rw [emitNodes, bind_eq_ok, Prod.exists]

/-! ## Nodes and sections that emitting comes to -/

/-- Emitting nodes comes to a node, at any depth inside sections, with literal text waiting and a builder. -/
inductive Comes : Pending → Builder → List Node → Pending → Builder → Node → Prop
  | here {p : Pending} {b : Builder} {node : Node} {nodes : List Node} : Comes p b (node :: nodes) p b node
  | behind {p p' q : Pending} {b b' c : Builder} {node node' : Node} {nodes : List Node} :
    emitNode p b node = .ok (p', b') → Comes p' b' nodes q c node' → Comes p b (node :: nodes) q c node'
  | inside {p q : Pending} {b c : Builder} {line : Int} {name label : Text} {body nodes : List Node} {node' : Node} :
    Comes {} (sectionStart p b line name) body q c node' → Comes p b (.captured line name label body :: nodes) q c node'

/-- Emitting nodes comes to a section: the builder before its body, the body, and the builder behind it. -/
inductive IsSection (p : Pending) (b : Builder) (nodes : List Node) : Builder → List Node → Builder → Prop
  | intro {q r : Pending} {c inner : Builder} {line : Int} {name label : Text} {body : List Node} :
    Comes p b nodes q c (.captured line name label body) → emitNodes {} (sectionStart q c line name) body = .ok (r, inner) →
    IsSection p b nodes (sectionStart q c line name) body (flush r inner)

/-- A node that closes the innermost block or goes on with it. -/
def turns : Node → Bool
  | .middle .. | .closeBlock .. => true
  | _ => false

/-- Some node of a section closes or goes on with a block that was opened outside the section. -/
def Escapes (before : Builder) (body : List Node) : Prop :=
  ∃ q c node, Comes {} before body q c node ∧ turns node ∧ c.depth ≤ before.depth

/-- What is emitted well comes to nodes that are emitted well. -/
theorem Comes.emitted {q' : Pending} {c' : Builder} (h : Comes p b nodes q c node)
    (hok : emitNodes p b nodes = .ok (q', c')) : ∃ r d, emitNode q c node = .ok (r, d) := by
  induction h generalizing q' c' with
  | here =>
    obtain ⟨r, d, hnode, -⟩ := emitNodes_cons.mp hok
    exact ⟨r, d, hnode⟩
  | behind hnode _ ih =>
    obtain ⟨r, d, hnode', hrest⟩ := emitNodes_cons.mp hok
    rw [hnode] at hnode'
    obtain ⟨rfl, rfl⟩ := Prod.mk.inj (Except.ok.inj hnode')
    exact ih hrest
  | inside _ ih =>
    obtain ⟨r, d, hnode, -⟩ := emitNodes_cons.mp hok
    obtain ⟨r', inner, hbody, -⟩ := emitNode_follows hnode
    exact ih hbody

/-- A node that closes or goes on with a block needs one. -/
theorem depth_pos_of_turns (ht : turns node) (h : emitNode p b node = .ok (q, c)) : 0 < b.depth := by
  have hf := emitNode_follows h
  rw [← Builder.kinds_length]
  cases node with
  | middle line allowed header directive =>
    obtain ⟨-, kind, outer, hk, -⟩ := hf
    simp [hk]
  | closeBlock line kind directive epilogue =>
    obtain ⟨-, outer, hk⟩ := hf
    simp [hk]
  | _ => cases ht

/-- Blocks that no node closes or goes on with stay open, the same ones. -/
theorem opened_above (base : List Block) (nodes : List Node) (p : Pending) (b : Builder) {q : Pending} {c : Builder}
    (h : emitNodes p b nodes = .ok (q, c)) (hb : base <:+ b.opened)
    (hturn : ∀ q' c' node, Comes p b nodes q' c' node → turns node → base.length < c'.depth) : base <:+ c.opened := by
  match nodes with
  | [] =>
    obtain ⟨-, rfl⟩ := Prod.mk.inj (Except.ok.inj h)
    exact hb
  | node :: rest =>
    obtain ⟨p', b', hnode, hrest⟩ := emitNodes_cons.mp h
    refine opened_above base rest p' b' hrest ?_ fun q' c' n hn => hturn q' c' n (.behind hnode hn)
    have hf := emitNode_follows hnode
    cases node with
    | openBlock line kind header directive prologue =>
      rw [show b'.opened = _ from hf]
      exact hb.trans (List.suffix_cons ..)
    | middle line allowed header directive =>
      rw [hf.1]
      exact hb
    | closeBlock line kind directive epilogue =>
      have hlt : base.length < b.opened.length := by
        rw [← Builder.depth_eq]
        exact hturn _ _ _ .here rfl
      obtain ⟨above, habove⟩ := hb
      cases above with
      | nil => simp [← habove] at hlt
      | cons block above => exact ⟨above, by rw [hf.1, ← habove]; rfl⟩
    | captured line name label body =>
      obtain ⟨r, inner, hbody, -, hopened⟩ := hf
      rw [hopened]
      exact opened_above base body {} _ hbody (by simpa using hb) fun q' c' n hn => hturn q' c' n (.inside hn)
    | empty line => exact hf.elim
    | _ =>
      rw [show b'.opened = _ from hf]
      exact hb

/-- A section that does not escape leaves open what was open before it. -/
theorem opened_of_not_escapes {before inner : Builder} (h : emitNodes {} before body = .ok (q, inner))
    (hd : inner.depth ≤ before.depth) (hescape : ¬ Escapes before body) : inner.opened = before.opened := by
  have hsuffix : before.opened <:+ inner.opened := by
    refine opened_above _ body {} before h List.suffix_rfl fun q' c' node hn ht => ?_
    rw [← Builder.depth_eq]
    exact Nat.lt_of_not_le fun hle => hescape ⟨q', c', node, hn, ht, hle⟩
  rw [Builder.depth_eq, Builder.depth_eq] at hd
  exact (hsuffix.eq_of_length_le hd).symm

/-! ## Nodes whose blocks nest -/

/-- The kinds of block that are open behind a node. -/
def leaves (kinds : List Text) : Node → List Text
  | .openBlock _ kind _ _ _ => kind :: kinds
  | .closeBlock .. => kinds.tail
  | _ => kinds

mutual

/-- A node goes on with or closes a block that is open; a section stands by itself. -/
def Fits (kinds : List Text) : Node → Prop
  | .middle _ allowed _ _ => ∃ kind outer, kinds = kind :: outer ∧ kind ∈ allowed
  | .closeBlock _ kind _ _ => ∃ outer, kinds = kind :: outer
  | .captured _ _ _ body => Nests [] body
  | .empty _ => False
  | _ => True

/-- Nodes close the blocks of the given kinds, innermost first, and what they open themselves. -/
def Nests (kinds : List Text) : List Node → Prop
  | [] => kinds = []
  | node :: nodes => Fits kinds node ∧ Nests (leaves kinds node) nodes

end

theorem kinds_of_opened {before inner : Builder} (h : inner.opened = before.opened) : inner.kinds = before.kinds := by
  rw [Builder.kinds, h, Builder.kinds]

/-- The kinds that are open behind a node, if a section leaves open what was open before it. -/
theorem kinds_behind (h : Follows p b c node) (hb : b.kinds = kinds ++ base) (hfits : Fits kinds node)
    (hsection : ∀ line name label body, node = .captured line name label body → c.kinds = b.kinds) :
    c.kinds = leaves kinds node ++ base := by
  cases node with
  | openBlock line kind header directive prologue =>
    rw [Builder.kinds, show c.opened = _ from h, List.map_cons]
    exact congrArg (kind :: ·) hb
  | middle line allowed header directive => exact (kinds_of_opened h.1).trans hb
  | closeBlock line kind directive epilogue =>
    obtain ⟨outer, rfl⟩ := hfits
    rw [Builder.kinds, h.1, List.map_tail]
    exact congrArg List.tail hb
  | captured line name label body => exact (hsection _ _ _ _ rfl).trans hb
  | empty line => exact h.elim
  | _ => exact (kinds_of_opened h).trans hb

mutual

/-- A node that fits is emitted. -/
theorem emitNode_of_fits (node : Node) {kinds base : List Text} (hfits : Fits kinds node) (p : Pending) (b : Builder)
    (hb : b.kinds = kinds ++ base) : ∃ q c, emitNode p b node = .ok (q, c) ∧ c.kinds = leaves kinds node ++ base := by
  have hemitted : ∃ q c, emitNode p b node = .ok (q, c) ∧
      ∀ line name label body, node = .captured line name label body → c.kinds = b.kinds := by
    match node with
    | .middle line allowed header directive =>
      rcases (flush p b).middle_cases allowed header directive line with ⟨d, hd, -⟩ | ⟨hno, -⟩
      · exact ⟨{}, d, by rw [emitNode, hd]; rfl, by simp⟩
      · obtain ⟨kind, outer, rfl, hkind⟩ := hfits
        refine absurd ⟨kind, outer ++ base, ?_, hkind⟩ hno
        rw [kinds_of_opened (Builder.opened_flush p b), hb]
        rfl
    | .closeBlock line kind directive epilogue =>
      rcases (flush p b).closeBlock_cases kind directive line with ⟨d, hd, -⟩ | ⟨hno, -⟩
      · exact ⟨{}, _, by rw [emitNode, hd]; rfl, by simp⟩
      · obtain ⟨outer, rfl⟩ := hfits
        refine absurd ⟨outer ++ base, ?_⟩ hno
        rw [kinds_of_opened (Builder.opened_flush p b), hb]
        rfl
    | .captured line name label body =>
      have hstart : (sectionStart p b line name).kinds = [] ++ b.kinds := kinds_of_opened (opened_sectionStart ..)
      obtain ⟨q, inner, hbody, hkinds⟩ := emitNodes_of_nests body hfits {} _ hstart
      rcases captured_cases label hbody with ⟨-, hok⟩ | ⟨hlt, -⟩
      · refine ⟨_, _, hok, fun _ _ _ _ _ => ?_⟩
        rw [← hkinds]
        exact kinds_of_opened (by simp)
      · rw [← Builder.kinds_length, ← Builder.kinds_length, hkinds] at hlt
        exact absurd hlt (Nat.lt_irrefl _)
    | .text .. | .verbatim .. | .echo .. | .statement .. | .comment .. | .openBlock .. => exact ⟨_, _, rfl, by simp⟩
    | .empty _ => exact hfits.elim
  obtain ⟨q, c, hnode, hsection⟩ := hemitted
  exact ⟨q, c, hnode, kinds_behind (emitNode_follows hnode) hb hfits hsection⟩

/-- Nodes whose blocks nest are emitted and close the blocks they are to close. -/
theorem emitNodes_of_nests (nodes : List Node) {kinds base : List Text} (hnests : Nests kinds nodes) (p : Pending)
    (b : Builder) (hb : b.kinds = kinds ++ base) : ∃ q c, emitNodes p b nodes = .ok (q, c) ∧ c.kinds = base := by
  match nodes with
  | [] =>
    obtain rfl : kinds = [] := hnests
    exact ⟨p, b, rfl, hb⟩
  | node :: rest =>
    obtain ⟨p', b', hnode, hb'⟩ := emitNode_of_fits node hnests.1 p b hb
    obtain ⟨q, c, hrest, hc⟩ := emitNodes_of_nests rest hnests.2 p' b' hb'
    exact ⟨q, c, emitNodes_cons.mpr ⟨p', b', hnode, hrest⟩, hc⟩

end

/-- Where blocks nest, a block that is closed or goes on was opened among the same nodes, and sections nest, too. -/
theorem nests_of_comes (h : Comes p b nodes q c node) (hnests : Nests kinds nodes) (hb : b.kinds = kinds ++ base) :
    (turns node → base.length < c.depth) ∧
      ∀ line name label body, node = .captured line name label body → Nests [] body := by
  induction h generalizing kinds base with
  | @here p b node nodes =>
    refine ⟨fun ht => ?_, fun line name label body hnode => ?_⟩
    · rw [← Builder.kinds_length, hb, List.length_append]
      obtain ⟨hfits, -⟩ := hnests
      cases node with
      | middle line allowed header directive =>
        obtain ⟨kind, outer, rfl, -⟩ := hfits
        simp
      | closeBlock line kind directive epilogue =>
        obtain ⟨outer, rfl⟩ := hfits
        simp
      | _ => cases ht
    · subst hnode
      exact hnests.1
  | @behind p p' q b b' c node node' nodes hnode _ ih =>
    obtain ⟨r, d, hok, hkinds⟩ := emitNode_of_fits node hnests.1 p b hb
    rw [hnode] at hok
    obtain ⟨rfl, rfl⟩ := Prod.mk.inj (Except.ok.inj hok)
    exact ih hnests.2 hkinds
  | @inside p q b c line name label body nodes node' _ ih =>
    have hstart : (sectionStart p b line name).kinds = [] ++ b.kinds := kinds_of_opened (opened_sectionStart ..)
    obtain ⟨hturn, hsection⟩ := ih hnests.1 hstart
    refine ⟨fun ht => ?_, hsection⟩
    have hlt := hturn ht
    rw [hb, List.length_append] at hlt
    omega

/-- Where nodes are emitted, close or go on with no block around them, and no section among them escapes, blocks nest. -/
theorem nests_of_emitted (nodes : List Node) (p : Pending) (b : Builder) {q : Pending} {c : Builder}
    {kinds base : List Text} (h : emitNodes p b nodes = .ok (q, c)) (hb : b.kinds = kinds ++ base) (hc : c.kinds = base)
    (hturn : ∀ q' c' node, Comes p b nodes q' c' node → turns node → base.length < c'.depth)
    (hsections : ∀ before body behind, IsSection p b nodes before body behind → ¬ Escapes before body) :
    Nests kinds nodes := by
  match nodes with
  | [] =>
    obtain ⟨-, rfl⟩ := Prod.mk.inj (Except.ok.inj h)
    exact List.append_left_eq_self.mp (hb.symm.trans hc)
  | node :: rest =>
    obtain ⟨p', b', hnode, hrest⟩ := emitNodes_cons.mp h
    have hf := emitNode_follows hnode
    have hlength := Builder.kinds_length b
    have hfits : Fits kinds node ∧ (∀ line name label body, node = .captured line name label body → b'.kinds = b.kinds) := by
      match node with
      | .middle line allowed header directive =>
        have hlt := hturn _ _ _ .here rfl
        obtain ⟨-, kind, outer, hk, hkind⟩ := hf
        rw [← hlength, hb, List.length_append] at hlt
        cases kinds with
        | nil => simp at hlt
        | cons k ks =>
          obtain ⟨rfl, -⟩ := List.cons.inj (hb.symm.trans hk)
          exact ⟨⟨k, ks, rfl, hkind⟩, by simp⟩
      | .closeBlock line kind directive epilogue =>
        have hlt := hturn _ _ _ .here rfl
        obtain ⟨-, outer, hk⟩ := hf
        rw [← hlength, hb, List.length_append] at hlt
        cases kinds with
        | nil => simp at hlt
        | cons k ks =>
          obtain ⟨rfl, -⟩ := List.cons.inj (hb.symm.trans hk)
          exact ⟨⟨ks, rfl⟩, by simp⟩
      | .captured line name label body =>
        obtain ⟨r, inner, hbody, hdepth, hopened⟩ := hf
        have hstart : (sectionStart p b line name).kinds = [] ++ b.kinds := kinds_of_opened (opened_sectionStart ..)
        have hescape : ¬ Escapes (sectionStart p b line name) body := hsections _ _ _ (.intro .here hbody)
        have hinner : inner.kinds = b.kinds := by
          refine kinds_of_opened ((opened_of_not_escapes hbody ?_ hescape).trans (opened_sectionStart ..))
          rw [depth_sectionStart]
          exact hdepth
        refine ⟨?_, fun _ _ _ _ _ => (kinds_of_opened hopened).trans hinner⟩
        refine nests_of_emitted body {} _ hbody hstart hinner (fun q' c' n hn ht => ?_) fun before body' behind hs => ?_
        · refine Nat.lt_of_not_le fun hle => hescape ⟨q', c', n, hn, ht, ?_⟩
          rw [← Builder.kinds_length (sectionStart p b line name), hstart]
          exact hle
        · cases hs with
          | intro hcomes hemitted => exact hsections _ _ _ (.intro (.inside hcomes) hemitted)
      | .text .. | .verbatim .. | .echo .. | .statement .. | .comment .. | .openBlock .. => exact ⟨trivial, by simp⟩
      | .empty _ => exact hf.elim
    refine ⟨hfits.1, ?_⟩
    refine nests_of_emitted rest p' b' hrest (kinds_behind hf hb hfits.1 hfits.2) hc
      (fun q' c' n hn => hturn q' c' n (.behind hnode hn)) fun before body behind hs => ?_
    cases hs with
    | intro hcomes hemitted => exact hsections _ _ _ (.intro (.behind hnode hcomes) hemitted)

/-! ## Programs -/

mutual

/-- A node is no place without meaning and holds none. -/
def Meaningful : Node → Prop
  | .empty _ => False
  | .captured _ _ _ body => AllMeaningful body
  | _ => True

/-- No node is a place without meaning, at any depth inside sections. -/
def AllMeaningful : List Node → Prop
  | [] => True
  | node :: nodes => Meaningful node ∧ AllMeaningful nodes

end

/-- Meaningful nodes are refused for their blocks only. -/
theorem unbalanced_of_emitNodes (nodes : List Node) (hm : AllMeaningful nodes) (p : Pending) (b : Builder) {e : Error}
    (h : emitNodes p b nodes = .error e) : ∃ e', e = .compile e' ∧ e'.cause.unbalanced := by
  match nodes with
  | [] => cases h
  | node :: rest =>
    rcases bind_eq_error.mp h with hnode | ⟨⟨p', b'⟩, -, hrest⟩
    · match node with
      | .middle line allowed header directive =>
        rcases (flush p b).middle_cases allowed header directive line with ⟨d, hd, -⟩ | ⟨-, e', he, hcause⟩
        · rw [emitNode, hd] at hnode
          cases hnode
        · rw [emitNode, he] at hnode
          cases hnode
          exact ⟨e', rfl, hcause⟩
      | .closeBlock line kind directive epilogue =>
        rcases (flush p b).closeBlock_cases kind directive line with ⟨d, hd, -⟩ | ⟨-, e', he, hcause⟩
        · rw [emitNode, hd] at hnode
          cases hnode
        · rw [emitNode, he] at hnode
          cases hnode
          exact ⟨e', rfl, hcause⟩
      | .captured line name label body =>
        rcases bind_eq_error.mp hnode with hbody | ⟨⟨q, inner⟩, hbody, -⟩
        · exact unbalanced_of_emitNodes body hm.1 {} _ hbody
        · rcases captured_cases label hbody with ⟨-, hok⟩ | ⟨-, e', he, hcause⟩
          · rw [hok] at hnode
            cases hnode
          · rw [he] at hnode
            cases hnode
            exact ⟨e', rfl, hcause⟩
      | .text .. | .verbatim .. | .echo .. | .statement .. | .comment .. | .openBlock .. => cases hnode
      | .empty _ => exact hm.1.elim
    · exact unbalanced_of_emitNodes rest hm.2 p' b' hrest

/-- A program is made of nodes that are emitted and leave no block open. -/
theorem generate_eq_ok : generate template nodes = .ok b ↔
    ∃ q c, emitNodes {} { template } nodes = .ok (q, c) ∧ c.kinds = [] ∧ b = flush q c := by
  have hkinds : ∀ d : Builder, d.depth ≤ 0 ↔ d.kinds = [] := fun d => by
    rw [← Builder.kinds_length, Nat.le_zero, List.length_eq_zero_iff]
  constructor
  · intro h
    obtain ⟨d, hemit, h⟩ := bind_eq_ok.mp h
    obtain ⟨⟨q, c⟩, hnodes, hd⟩ := bind_eq_ok.mp hemit
    obtain rfl : flush q c = d := Except.ok.inj hd
    obtain ⟨u, hclosed, h⟩ := bind_eq_ok.mp h
    refine ⟨q, c, hnodes, ?_, (Except.ok.inj h).symm⟩
    rcases (flush q c).checkClosed_cases 0 [] with ⟨-, hle⟩ | ⟨-, e, he, -⟩
    · rw [← kinds_of_opened (Builder.opened_flush q c)]
      exact (hkinds _).mp hle
    · rw [show (0 : Int) = (0 : Nat) from rfl, he] at hclosed
      cases hclosed
  · rintro ⟨q, c, hnodes, hc, rfl⟩
    refine bind_eq_ok.mpr ⟨flush q c, bind_eq_ok.mpr ⟨_, hnodes, rfl⟩, ?_⟩
    rcases (flush q c).checkClosed_cases 0 [] with ⟨hok, -⟩ | ⟨hlt, -⟩
    · exact bind_eq_ok.mpr ⟨(), by rw [show (0 : Int) = (0 : Nat) from rfl, hok], rfl⟩
    · rw [← Builder.kinds_length, kinds_of_opened (Builder.opened_flush q c), hc] at hlt
      cases hlt

/-- **Blocks and sections.**  The nodes of a template become a program in which no section escapes exactly if their blocks
nest.  In a program, no section leaves more blocks open than there were, and one that does not escape leaves the very
blocks open that were open before it.  Nodes that become no program are refused because blocks do not nest. -/
theorem nests_iff (template : Option Text) (nodes : List Node) :
    (Nests [] nodes ↔ (∃ b, generate template nodes = .ok b) ∧
      ∀ before body behind, IsSection {} { template } nodes before body behind → ¬ Escapes before body) ∧
    (∀ b, generate template nodes = .ok b → ∀ before body behind, IsSection {} { template } nodes before body behind →
      behind.depth ≤ before.depth ∧ (¬ Escapes before body → behind.opened = before.opened)) ∧
    (AllMeaningful nodes → ∀ e, generate template nodes = .error e → ∃ e', e = .compile e' ∧ e'.cause.unbalanced) := by
  have hstart : ({ template } : Builder).kinds = [] ++ [] := rfl
  refine ⟨⟨fun hnests => ?_, fun ⟨⟨b, hb⟩, hsections⟩ => ?_⟩, fun b hb before body behind hs => ?_, fun hm e he => ?_⟩
  · obtain ⟨q, c, hnodes, hc⟩ := emitNodes_of_nests nodes hnests {} { template } hstart
    refine ⟨⟨_, generate_eq_ok.mpr ⟨q, c, hnodes, hc, rfl⟩⟩, fun before body behind hs => ?_⟩
    cases hs with
    | @intro p r b inner line name label body hcomes _ =>
      have hbody : Nests [] body := (nests_of_comes hcomes hnests hstart).2 _ _ _ _ rfl
      have hinside : (sectionStart p b line name).kinds = [] ++ (sectionStart p b line name).kinds := rfl
      rintro ⟨q', c', node, hn, ht, hle⟩
      have hlt := (nests_of_comes hn hbody hinside).1 ht
      rw [Builder.kinds_length] at hlt
      omega
  · obtain ⟨q, c, hnodes, hc, -⟩ := generate_eq_ok.mp hb
    refine nests_of_emitted nodes {} { template } hnodes hstart hc (fun q' c' node hn ht => ?_) hsections
    obtain ⟨r, d, hnode⟩ := hn.emitted hnodes
    exact depth_pos_of_turns ht hnode
  · obtain ⟨q, c, hnodes, -, -⟩ := generate_eq_ok.mp hb
    cases hs with
    | @intro p r b inner line name label body hcomes hbody =>
      have hdepth : inner.depth ≤ b.depth := by
        obtain ⟨r', d, hnode⟩ := hcomes.emitted hnodes
        obtain ⟨r'', inner', hbody', hle, -⟩ := emitNode_follows hnode
        rw [hbody] at hbody'
        obtain ⟨rfl, rfl⟩ := Prod.mk.inj (Except.ok.inj hbody')
        exact hle
      refine ⟨by simpa [Builder.depth_eq] using hdepth, fun hescape => ?_⟩
      rw [Builder.opened_flush]
      exact opened_of_not_escapes hbody (by simpa using hdepth) hescape
  · rcases bind_eq_error.mp he with hemit | ⟨b, -, hclosed⟩
    · rcases bind_eq_error.mp hemit with hnodes | ⟨_, -, hflush⟩
      · exact unbalanced_of_emitNodes nodes hm {} _ hnodes
      · cases hflush
    · rcases bind_eq_error.mp hclosed with hclosed | ⟨_, -, hreturn⟩
      · rcases b.checkClosed_cases 0 [] with ⟨hok, -⟩ | ⟨-, e', he', hcause⟩
        · rw [show (0 : Int) = (0 : Nat) from rfl, hok] at hclosed
          cases hclosed
        · rw [show (0 : Int) = (0 : Nat) from rfl, he'] at hclosed
          cases hclosed
          exact ⟨e', rfl, hcause⟩
      · cases hreturn

/-- A condition that is closed inside a section: what is written `@if(x)@section('a')@endif@endsection`. -/
def closedInside : List Node :=
  [.openBlock 1 "if" "if x:" "if" [], .captured 1 "'a'" "a" [.closeBlock 1 "if" "endif" []]]

/-- Emitting these nodes succeeds, although the section closes the block that was opened around it: one block is open
before its body and none behind it. -/
theorem section_escapes : ∃ b before behind, generate (some "page") closedInside = .ok b ∧
    IsSection {} { template := some "page" } closedInside before [.closeBlock 1 "if" "endif" []] behind ∧
    Escapes before [.closeBlock 1 "if" "endif" []] ∧
    before.opened = [⟨"if", "if", 1, false⟩] ∧ behind.opened = [] ∧ ¬ Nests [] closedInside := by
  refine ⟨_, _, _, rfl, .intro (.behind rfl .here) rfl, ⟨_, _, _, .here, rfl, Nat.le_refl _⟩, rfl, rfl, ?_⟩
  rintro ⟨-, ⟨⟨outer, hopen⟩, -⟩, -⟩
  cases hopen

end Program
end Stencil
