import Stencil.Value.Basic
import Stencil.Text.Basic

/-!
# Things that can change

Lists, sets, mappings and records can change while a page is rendered.  A new one has no identity until it is *settled*:
then it gets the number of a birth, and its parts get the same number and their places in it.  What a settled value holds
now may differ from what it held when it was taken: `now` brings it up to date from what is known to have changed.  A
list or mapping that has come to be inside itself is cut off there.
-/

namespace Stencil.Value

/-- The identity of a value. -/
def identity? : Value → Option Identity
  | .list _ who | .set _ who | .dict _ who | .listing _ _ who | .record _ who => who
  | .within _ who => some who
  | _ => none

mutual

/-- Everything in a value that can change has an identity. -/
def isSettled : Value → Bool
  | .list items who | .set items who => who.isSome && areSettled items
  | .tuple items | .frozenSet items => areSettled items
  | .dict entries who | .listing _ entries who => who.isSome && areSettledEntries entries
  | .record fields who => who.isSome && areSettledFields fields
  | _ => true

/-- Everything in several values that can change has an identity. -/
def areSettled : List Value → Bool
  | [] => true
  | v :: vs => isSettled v && areSettled vs

/-- Everything in the entries of a mapping that can change has an identity. -/
def areSettledEntries : List (Value × Value) → Bool
  | [] => true
  | (k, v) :: es => isSettled k && isSettled v && areSettledEntries es

/-- Everything in the fields of a record that can change has an identity. -/
def areSettledFields : List (Text × Value) → Bool
  | [] => true
  | (_, v) :: fs => isSettled v && areSettledFields fs

end

/-- The place of a part: under its key, or by its number. -/
def placeOf (n : Nat) : Value → Text
  | .str s | .markup s => '=' :: s
  | _ => Text.ofNat n

mutual

/-- Gives an identity to everything in a value that can change and has none. -/
def settleAt (birth : Nat) (place : List Text) : Value → Value
  | .list items who => .list (settleAll birth place 0 items) (who <|> some ⟨birth, place⟩)
  | .set items who => .set (settleAll birth place 0 items) (who <|> some ⟨birth, place⟩)
  | .tuple items => .tuple (settleAll birth place 0 items)
  | .frozenSet items => .frozenSet (settleAll birth place 0 items)
  | .dict entries who => .dict (settleEntries birth place 0 entries) (who <|> some ⟨birth, place⟩)
  | .listing kind entries who => .listing kind (settleEntries birth place 0 entries) (who <|> some ⟨birth, place⟩)
  | .record fields who => .record (settleFields birth place fields) (who <|> some ⟨birth, place⟩)
  | v => v

/-- Gives identities in several values, from a number on. -/
def settleAll (birth : Nat) (place : List Text) (n : Nat) : List Value → List Value
  | [] => []
  | v :: vs => settleAt birth (Text.ofNat n :: place) v :: settleAll birth place (n + 1) vs

/-- Gives identities in the values of the entries of a mapping, from a number on. -/
def settleEntries (birth : Nat) (place : List Text) (n : Nat) : List (Value × Value) → List (Value × Value)
  | [] => []
  | (k, v) :: es => (k, settleAt birth (placeOf n k :: place) v) :: settleEntries birth place (n + 1) es

/-- Gives identities in the fields of a record. -/
def settleFields (birth : Nat) (place : List Text) : List (Text × Value) → List (Text × Value)
  | [] => []
  | (k, v) :: fs => (k, settleAt birth (('=' :: k) :: place) v) :: settleFields birth place fs

end

/-- What is known to have changed: what a thing with an identity holds now, if it holds something else than before. -/
abbrev Changes := Identity → Option Value

/-- A value is what is listed of a mapping, or a mapping. -/
def isMapping : Value → Bool
  | .dict .. | .listing .. | .within true _ => true
  | _ => false

mutual

/-- A value as it is now; `around` are the things that it is inside of, and `again` brings what has changed up to date. -/
def refresh (changes : Changes) (again : List Identity → Value → Value) (around : List Identity) (v : Value) : Value :=
  match v with
  | .list items (some who) =>
    if who ∈ around then .within false who
    else match changes who with
      | some (.list items _) => again (who :: around) (.list items (some who))
      | _ => .list (refreshAll changes again (who :: around) items) (some who)
  | .dict entries (some who) =>
    if who ∈ around then .within true who
    else match changes who with
      | some (.dict entries _) => again (who :: around) (.dict entries (some who))
      | _ => .dict (refreshEntries changes again (who :: around) entries) (some who)
  | .listing kind entries (some who) =>
    match changes who with
    | some (.dict entries _) => again around (.listing kind entries (some who))
    | _ => .listing kind (refreshEntries changes again around entries) (some who)
  | .set items (some who) =>
    match changes who with
    | some (.set items _) => .set items (some who)
    | _ => .set items (some who)
  | .record fields (some who) =>
    if who ∈ around then .within true who
    else match changes who with
      | some (.record fields _) => again (who :: around) (.record fields (some who))
      | _ => .record (refreshFields changes again (who :: around) fields) (some who)
  | .within mapping who =>
    if who ∈ around then .within mapping who else ((changes who).map (again (who :: around))).getD v
  | .tuple items => .tuple (refreshAll changes again around items)
  | v => v

/-- Several values as they are now. -/
def refreshAll (changes : Changes) (again : List Identity → Value → Value) (around : List Identity) :
    List Value → List Value
  | [] => []
  | v :: vs => refresh changes again around v :: refreshAll changes again around vs

/-- The entries of a mapping as they are now. -/
def refreshEntries (changes : Changes) (again : List Identity → Value → Value) (around : List Identity) :
    List (Value × Value) → List (Value × Value)
  | [] => []
  | (k, v) :: es => (k, refresh changes again around v) :: refreshEntries changes again around es

/-- The fields of a record as they are now. -/
def refreshFields (changes : Changes) (again : List Identity → Value → Value) (around : List Identity) :
    List (Text × Value) → List (Text × Value)
  | [] => []
  | (k, v) :: fs => (k, refresh changes again around v) :: refreshFields changes again around fs

end

/-- Brings the parts of something that has changed up to date, through so many changed things inside each other. -/
def refreshParts (changes : Changes) : Nat → List Identity → Value → Value
  | 0, _, v => v
  | levels + 1, around, v =>
    let again := refreshParts changes levels
    match v with
    | .list items who => .list (refreshAll changes again around items) who
    | .dict entries who => .dict (refreshEntries changes again around entries) who
    | .listing kind entries who => .listing kind (refreshEntries changes again around entries) who
    | .record fields who => .record (refreshFields changes again around fields) who
    | v => v

/-- A value as it is now, if so many things have changed. -/
def now (changes : Changes) (count : Nat) (v : Value) : Value := refresh changes (refreshParts changes (count + 1)) [] v

end Stencil.Value
