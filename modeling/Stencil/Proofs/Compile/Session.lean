import Mathlib.Data.Set.Insert
import Stencil.Proofs.Compile.Memory

/-!
# Compiling again and again

A compiler is asked for one template after the other, while the sources that its loader finds are edited and deleted and
its results are forgotten from time to time.

* `Session` — a compiler with what it remembers, `Move` what is done with it.
* `Session.answer` — the program of a template and the names it includes, or the error, at some point of a session.
* `Session.renewed` — the same compiler with nothing remembered.
* `answer_after` — how the answer in a session compares with that of a renewed one: as long as no two sources under names
  share a key and are translated differently, they are alike; and what is remembered under the key is what is answered,
  whichever source it comes from.
-/

namespace Stencil

open Compiler

/-- A compiler with what it remembers. -/
structure Session where
  compiler : Compiler
  memory : Memory := {}

/-- What is done with a compiler: compiling a source under a name, having the loader find other sources, and forgetting
every result. -/
inductive Move where
  | compile (source name : Text)
  | edit (loader : Option Loader)
  | clear

namespace Session

/-- The session behind a move. -/
def after (s : Session) : Move → Session
  | .compile source name => { s with memory := (runFrom (s.compiler.compile source name) s.memory).2 }
  | .edit loader => { s with compiler := { s.compiler with loader } }
  | .clear => { s with memory := s.memory.clear }

/-- The session behind moves. -/
def run (s : Session) (moves : List Move) : Session := moves.foldl after s

/-- What compiling a source under a name answers. -/
def answer (s : Session) (source name : Text) : Except Error Compiled :=
  (runFrom (answered (s.compiler.compile source name)) s.memory).1

/-- The session in which nothing is remembered. -/
def renewed (s : Session) : Session := { s with memory := {} }

/-- The sources under names that those of `S` lead to. -/
def reached (s : Session) (S : Set (Text × Text)) : Set (Text × Text) := {q | ∃ p ∈ S, Reaches s.compiler p q}

/-- The sources under names that may have been come upon since results were last forgotten, behind a move. -/
def metBy (s : Session) (S : Set (Text × Text)) : Move → Set (Text × Text)
  | .compile source name => s.reached (insert (source, name) S)
  | .edit _ => S
  | .clear => ∅

/-- The sources under names that may have been come upon since results were last forgotten, behind moves. -/
def met (s : Session) (S : Set (Text × Text)) : List Move → Set (Text × Text)
  | [] => S
  | move :: moves => (s.after move).met (s.metBy S move) moves

/-- Nothing is being compiled, and what is remembered comes from `S`. -/
def Sound (S : Set (Text × Text)) (s : Session) : Prop :=
  Origin s.compiler.registry S s.memory ∧ s.memory.stack = []

variable {s : Session} {S : Set (Text × Text)}

theorem sound_renewed (s : Session) : Sound ∅ s.renewed := ⟨origin_empty, rfl⟩

theorem subset_reached (s : Session) (S : Set (Text × Text)) : S ⊆ s.reached S := fun p hp => ⟨p, hp, .here p⟩

theorem reached_closed {p q : Text × Text} (hp : p ∈ s.reached S) (hq : Reaches s.compiler p q) : q ∈ s.reached S := by
  obtain ⟨p', hp', hreaches⟩ := hp
  exact ⟨p', hp', hreaches.trans hq⟩

/-- A move keeps a session sound. -/
theorem Sound.after (h : Sound S s) (move : Move) : Sound (s.metBy S move) (s.after move) := by
  obtain ⟨horigin, hstack⟩ := h
  cases move with
  | compile source name =>
    have hmem : (source, name) ∈ s.reached (insert (source, name) S) := subset_reached s _ (Set.mem_insert _ _)
    have hsub : S ⊆ s.reached (insert (source, name) S) := (Set.subset_insert _ _).trans (subset_reached s _)
    obtain ⟨horigin', hstack'⟩ := compile_stays (fun p hp q hq => reached_closed hp hq) hmem s.memory (horigin.mono hsub)
    exact ⟨horigin', hstack'.trans hstack⟩
  | edit loader => exact ⟨horigin, hstack⟩
  | clear => exact ⟨origin_clear, hstack⟩

/-- A session stays sound. -/
theorem Sound.run (h : Sound S s) (moves : List Move) : Sound (s.met S moves) (s.run moves) := by
  induction moves generalizing s S with
  | nil => exact h
  | cons move moves ih => exact ih (h.after move)

/-- In a sound session a template is answered as by a visit, unless sources are mixed up. -/
theorem Sound.answer_alike (h : Sound S s) (source name : Text)
    (hapart : ∀ p ∈ S ∪ s.reached {(source, name)}, ∀ q ∈ s.reached {(source, name)}, Apart s.compiler.registry p q) :
    Alike (s.answer source name) (s.compiler.visit s.compiler.maxDepth.toNat [] source name) := by
  obtain ⟨horigin, hstack⟩ := h
  have hvisits : ∀ q, Visits s.compiler s.compiler.maxDepth.toNat [] (source, name) q →
      q ∈ S ∪ s.reached {(source, name)} ∧ ∀ p ∈ S ∪ s.reached {(source, name)}, Apart s.compiler.registry p q := by
    intro q hq
    have hreached : q ∈ s.reached {(source, name)} := ⟨_, Set.mem_singleton _, hq.reaches⟩
    exact ⟨.inr hreached, fun p hp => hapart p hp q hreached⟩
  exact (compile_meets hvisits s.memory (horigin.mono Set.subset_union_left) hstack).1

/-- A compiler that remembers nothing answers what the source is translated to, if anything. -/
theorem translation_of_renewed {source name : Text} {answer : Compiled}
    (h : s.renewed.answer source name = .ok answer) : translation s.compiler.registry source name = .ok answer := by
  obtain ⟨inner, m, hmade⟩ := remembered_of_answered (m := {}) (Prod.ext h rfl)
  exact translation_of_remembered rfl hmade

/-- **Answers in a session.**  As long as no two of the sources under names that were come upon share a key and are
translated differently, a session answers what a compiler that remembers nothing answers.  A result that is remembered
under the key of a call comes from translating some source under a name that has this key, and what the call answers is
that translation: so it is what a compiler that remembers nothing answers exactly if the source that is asked for is
translated to the same. -/
theorem answer_after (c : Compiler) (moves : List Move) (source name : Text) :
    let s := ({ compiler := c } : Session).run moves
    let S := ({ compiler := c } : Session).met ∅ moves
    ((∀ p ∈ S ∪ s.reached {(source, name)}, ∀ q ∈ s.reached {(source, name)}, Apart s.compiler.registry p q) →
      Alike (s.answer source name) (s.renewed.answer source name)) ∧
    (s.memory.results.has (key source name) → ∃ p ∈ S, key p.1 p.2 = key source name ∧
      ∀ answer, s.answer source name = .ok answer → translation s.compiler.registry p.1 p.2 = .ok answer ∧
        ∀ new, s.renewed.answer source name = .ok new → (answer = new ↔
          translation s.compiler.registry p.1 p.2 = translation s.compiler.registry source name)) := by
  intro s S
  have hsound : Sound S s := (sound_renewed { compiler := c }).run moves
  refine ⟨fun hapart => ?_, fun hhas => ?_⟩
  · have hrenewed : Sound ∅ s.renewed := sound_renewed s
    refine (hsound.answer_alike source name hapart).trans (hrenewed.answer_alike source name ?_).symm
    intro p hp q hq
    exact hapart p (hp.resolve_left (Set.notMem_empty p) |> Or.inr) q hq
  · obtain ⟨found, hfound⟩ := Option.isSome_iff_exists.mp hhas
    obtain ⟨p, hp, hkey, hmade⟩ := hsound.1 _ _ hfound
    refine ⟨p, hp, hkey, fun answer hanswer => ?_⟩
    have hsame : answer = found := compiled_of_remembered hfound (Prod.ext hanswer rfl)
    refine ⟨by rw [hsame, hmade], fun new hnew => ?_⟩
    rw [hmade, translation_of_renewed hnew, hsame, Except.ok.injEq]

/-- Without a loader a source under a name leads to nothing else. -/
theorem reached_of_no_loader (h : s.compiler.loader = none) (S : Set (Text × Text)) : s.reached S = S := by
  refine Set.Subset.antisymm ?_ (subset_reached s S)
  rintro q ⟨p, hp, hreaches⟩
  cases hreaches with
  | here => exact hp
  | next _ hload => rw [h] at hload; cases hload

/-- A new compiler without a loader answers what the source is translated to. -/
theorem answer_new {registry : Registry} {source name : Text} {made : Compiled}
    (h : translation registry source name = .ok made) :
    ({ compiler := { registry } } : Session).answer source name = .ok made := by
  have hsound : Sound ∅ ({ compiler := { registry } } : Session) := sound_renewed { compiler := { registry } }
  have halike := hsound.answer_alike source name fun p hp q hq => by
    rw [reached_of_no_loader rfl] at hp hq
    rw [hp.resolve_left (Set.notMem_empty p), show q = (source, name) from hq]
    exact fun _ => rfl
  have hincludes : ∀ names : List Text, names.forM (lookAt { registry } (visit { registry } 49 [name])) = .ok () := by
    intro names
    induction names with
    | nil => rfl
    | cons n names ih => exact ih
  have hvisit : visit { registry } 50 [] source name = .ok made := by
    rw [visit, List.nil_append, hincludes, h]
    rfl
  exact (halike.trans (by rw [← hvisit]; exact .rfl)).symm.ok_left

/-- A session in which the template `bc` with the source `a` was compiled. -/
def compiledBefore : Session := ({ compiler := { registry := .standard } } : Session).run [.compile "a" "bc"]

/-- In this session the template `d` with the source `b` is answered as by a renewed one. -/
theorem answer_after_apart :
    Alike (compiledBefore.answer "b" "d") (compiledBefore.renewed.answer "b" "d") := by
  refine (answer_after { registry := .standard } [.compile "a" "bc"] "b" "d").1 ?_
  rw [reached_of_no_loader rfl]
  intro p hp q hq hkey
  obtain rfl : q = (("b" : Text), ("d" : Text)) := hq
  rcases hp with hp | hp
  · obtain rfl : p = (("a" : Text), ("bc" : Text)) := by
      rw [met, met, metBy, reached_of_no_loader rfl] at hp
      exact hp.resolve_right (Set.notMem_empty p)
    exact absurd hkey (by decide)
  · rw [show p = (("b" : Text), ("d" : Text)) from hp]

/-- In this session the template `c` with the source `ab` is answered with the program of the source `a`. -/
theorem answer_mixed_up :
    ¬ Alike (compiledBefore.answer "ab" "c") (compiledBefore.renewed.answer "ab" "c") := by
  have hmixed : (compiledBefore.answer "ab" "c").toOption.map (·.program) = some "_echo('a')\n" := by decide +kernel
  have hright : (compiledBefore.renewed.answer "ab" "c").toOption.map (·.program) = some "_echo('ab')\n" := by
    decide +kernel
  intro halike
  cases hanswer : compiledBefore.answer "ab" "c" with
  | error e =>
    rw [hanswer] at hmixed
    cases hmixed
  | ok found =>
    rw [hanswer] at halike hmixed
    rw [halike.ok_left] at hright
    exact absurd (hmixed.symm.trans hright) (by decide)

end Session
end Stencil
