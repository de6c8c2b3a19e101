import Mathlib.Algebra.Group.Nat.Defs
import Mathlib.Algebra.Ring.Int.Defs
import Mathlib.Data.List.Basic

/-!
# JSON documents behind a parser and a printer

A document as a C++ JSON library holds it: integers are signed or unsigned 64-bit values, of a
floating-point number only the integral part is ever read here, and the fields of an object are kept
in the order of their keys.

The parser and the printer themselves are parameters: a `JsonLibrary` is any pair of functions for
which parsing a printed document gives the document back. The law is asked for documents that
print exactly, `Json.prints`: no floating-point number, integers in range, keys in order.
-/

inductive Json
  | null
  | boolean (value : Bool)
  | numberInteger (value : ℤ)
  | numberFloat (integralPart : ℤ)
  | string (value : String)
  | array (items : List Json)
  | object (fields : List (String × Json))

namespace Json

mutual

/-- The documents that a printer writes without loss. -/
def prints : Json → Bool
  | .null | .boolean _ | .string _ => true
  | .numberInteger value => decide (-2 ^ 63 ≤ value ∧ value < 2 ^ 64)
  | .numberFloat _ => false
  | .array items => itemsPrint items
  | .object fields => decide ((fields.map Prod.fst).Pairwise (· < ·)) && fieldsPrint fields

def itemsPrint : List Json → Bool
  | [] => true
  | item :: rest => item.prints && itemsPrint rest

def fieldsPrint : List (String × Json) → Bool
  | [] => true
  | field :: rest => fieldPrints field && fieldsPrint rest

def fieldPrints : String × Json → Bool
  | (_, value) => value.prints

end

@[simp] theorem prints_string (value : String) : (string value).prints := by rw [prints]

/-- An object prints when its keys are in order and its fields print. -/
theorem prints_object (keys : List String) {fields : List (String × Json)}
    (hkeys : fields.map Prod.fst = keys) (horder : keys.Pairwise (· < ·))
    (hfields : ∀ value ∈ fields.map Prod.snd, value.prints) : (object fields).prints := by
  have hprint : fieldsPrint fields := by
    clear hkeys
    induction fields with
    | nil => rfl
    | cons field rest ih =>
      rw [fieldsPrint, fieldPrints, Bool.and_eq_true]
      obtain ⟨hhead, htail⟩ := List.forall_mem_cons.mp hfields
      exact ⟨hhead, ih htail⟩
  rw [prints, hkeys, Bool.and_eq_true]
  exact ⟨decide_eq_true horder, hprint⟩

/-! ## Reading a document -/

/-- The field of an object under a key. -/
def find (document : Json) (key : String) : Option Json :=
  match document with
  | .object fields => fields.lookup key
  | _ => none

def isObject : Json → Bool
  | .object _ => true
  | _ => false

/-- A 64-bit pattern read as a signed number. -/
def wrapInt64 (value : ℤ) : ℤ := (value + 2 ^ 63) % 2 ^ 64 - 2 ^ 63

/-- The values of a signed 64-bit number. -/
def IsInt64 (value : ℤ) : Prop := -2 ^ 63 ≤ value ∧ value < 2 ^ 63

instance (value : ℤ) : Decidable (IsInt64 value) := inferInstanceAs (Decidable (_ ∧ _))

theorem wrapInt64_of_isInt64 {value : ℤ} (h : IsInt64 value) : wrapInt64 value = value := by
  obtain ⟨hmin, hmax⟩ := h
  rw [wrapInt64, Int.emod_eq_of_lt (by omega) (by omega)]
  omega

theorem prints_numberInteger {value : ℤ} (h : IsInt64 value) : (numberInteger value).prints := by
  obtain ⟨hmin, hmax⟩ := h
  rw [prints, decide_eq_true_eq]
  omega

def tryGetString (document : Json) (key : String) : Option String :=
  match document.find key with
  | some (.string value) => some value
  | _ => none

/-- An integer field as a signed 64-bit value; a floating-point number does not count as one. -/
def tryGetInt64 (document : Json) (key : String) : Option ℤ :=
  match document.find key with
  | some (.numberInteger value) => some (wrapInt64 value)
  | _ => none

/-- A field converted to an unsigned 32-bit value, zero when it is not there. `none` when the
conversion throws. -/
def valueUInt32 (document : Json) (key : String) : Option ℕ :=
  match document.find key with
  | none => some 0
  | some (.numberInteger value) => some (value % 2 ^ 32).toNat
  | some (.numberFloat integralPart) => some (integralPart % 2 ^ 32).toNat
  | some (.boolean value) => some value.toNat
  | some _ => none

end Json

/-- A parser and a printer of documents. -/
structure JsonLibrary (Text : Type*) where
  parse : Text → Option Json
  dump : Json → Text
  parse_dump : ∀ document : Json, document.prints = true → parse (dump document) = some document

/-- The library whose texts are documents, or nothing where a text is malformed. -/
def JsonLibrary.trees : JsonLibrary (Option Json) where
  parse text := text
  dump document := some document
  parse_dump _ _ := rfl
