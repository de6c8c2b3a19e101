import Mathlib.Data.Rat.Init
import TradingEngine.Lib.Json

/-!
# Loading a record from a document

A loader fills in a record from a JSON document. It looks for one key after the other, reads the
values that are there, and stops at the first one that it cannot read, with an error and with what
it has filled in so far. Some values are sections, objects with keys of their own.

What a loader does depends on the values at certain paths and on nothing else: it is a list of
steps, one for each path (`readField_eq`, `readSection_eq`). So a document is read when every step
can read its own value, and the record is then what the updates of the steps make of it
(`exec_visitAll_of_passes`).
-/

/-- A document as the parser of `nlohmann::json` holds it: a number that is written with a minus
sign is signed, also if it is zero, and any other integer is unsigned. -/
inductive JsonValue
  | null
  | boolean (value : Bool)
  | numberInteger (value : ℤ)
  | numberUnsigned (value : ℕ)
  | numberFloat (value : ℚ)
  | string (value : String)
  | array (items : List JsonValue)
  | object (fields : List (String × JsonValue))

namespace JsonValue

mutual

/-- Every integer in the document is the value of a signed 64-bit number. -/
def integersFit : JsonValue → Bool
  | .numberInteger value => decide (Json.IsInt64 value)
  | .numberUnsigned value => decide (value < 2 ^ 63)
  | .array items => itemsFit items
  | .object fields => fieldsFit fields
  | .null | .boolean _ | .numberFloat _ | .string _ => true

def itemsFit : List JsonValue → Bool
  | [] => true
  | item :: rest => item.integersFit && itemsFit rest

def fieldsFit : List (String × JsonValue) → Bool
  | [] => true
  | field :: rest => fieldFits field && fieldsFit rest

def fieldFits : String × JsonValue → Bool
  | (_, value) => value.integersFit

end

def isObject : JsonValue → Bool
  | .object _ => true
  | _ => false

/-- The field of an object under a key. -/
def find (document : JsonValue) (key : String) : Option JsonValue :=
  match document with
  | .object fields => fields.lookup key
  | _ => none

/-- The value at the end of a path of keys. -/
def atPath (document : JsonValue) : List String → Option JsonValue
  | [] => some document
  | key :: rest => (document.find key).bind fun value ↦ value.atPath rest

def getString : JsonValue → Option String
  | .string value => some value
  | _ => none

/-- An integer of either type as a signed 64-bit value. -/
def getInt64 : JsonValue → Option ℤ
  | .numberInteger value => some value
  | .numberUnsigned value => some (Json.wrapInt64 value)
  | _ => none

theorem integersFit_of_find {document value : JsonValue} {key : String}
    (h : document.integersFit = true) (hfind : document.find key = some value) :
    value.integersFit = true := by
  cases document with
  | object fields =>
    rw [integersFit] at h
    simp only [find] at hfind
    induction fields with
    | nil => cases hfind
    | cons field rest ih =>
      obtain ⟨name, first⟩ := field
      rw [fieldsFit, fieldFits, Bool.and_eq_true] at h
      rw [List.lookup_cons] at hfind
      split at hfind
      · rw [← Option.some.inj hfind]
        exact h.1
      · exact ih h.2 hfind
  | _ => cases hfind

theorem integersFit_of_atPath {path : List String} :
    ∀ {document value : JsonValue}, document.integersFit = true →
      document.atPath path = some value → value.integersFit = true := by
  induction path with
  | nil =>
    intro document value h hat
    rwa [← Option.some.inj hat]
  | cons key rest ih =>
    intro document value h hat
    obtain ⟨inner, hfind, hrest⟩ := Option.bind_eq_some_iff.mp hat
    exact ih (integersFit_of_find h hfind) hrest

end JsonValue

/-! ## Loaders -/

/-- A loader of a record. What it has filled in survives an error. -/
abbrev Load (σ : Type) := ExceptT String (StateM σ)

namespace Load

variable {σ α : Type}

/-- The outcome of a loader on a record. -/
def exec (load : Load σ α) (record : σ) : Except String α × σ :=
  (ExceptT.run load).run record

/-- Read a value, if it is there, into a part of the record. -/
def readField (document : JsonValue) (key : String) (parse : JsonValue → Except String α)
    (out : α → σ → σ) : Load σ Unit :=
  match document.find key with
  | none => pure ()
  | some value =>
    match parse value with
    | .ok parsed => modify (out parsed)
    | .error error => throw error

/-- Go on with a section, if it is there. -/
def readSection (document : JsonValue) (key name : String) (body : JsonValue → Load σ Unit) :
    Load σ Unit :=
  match document.find key with
  | none => pure ()
  | some value =>
    if value.isObject then body value else throw (name ++ " must be an object")

/-! ## Steps -/

/-- What a loader does with the value at one path: it updates the record or fails. -/
structure Step (σ : Type) where
  path : List String
  read : JsonValue → Except String (σ → σ)

/-- A step of a section, seen from the document that the section is in. -/
def Step.under (key : String) (step : Step σ) : Step σ := { step with path := key :: step.path }

/-- The step that looks whether a section is an object. -/
def sectionStep (key name : String) : Step σ where
  path := [key]
  read value := if value.isObject then .ok id else .error (name ++ " must be an object")

def fieldStep (key : String) (parse : JsonValue → Except String α) (out : α → σ → σ) : Step σ where
  path := [key]
  read value := (parse value).map out

def visit (document : JsonValue) (step : Step σ) : Load σ Unit :=
  match document.atPath step.path with
  | none => pure ()
  | some value =>
    match step.read value with
    | .ok update => modify update
    | .error error => throw error

def visitAll (document : JsonValue) (steps : List (Step σ)) : Load σ Unit :=
  forM steps (visit document)

theorem visitAll_cons (document : JsonValue) (step : Step σ) (steps : List (Step σ)) :
    visitAll document (step :: steps) = (do visit document step; visitAll document steps) :=
  List.forM_cons

theorem visitAll_append (document : JsonValue) (steps steps' : List (Step σ)) :
    visitAll document (steps ++ steps') = (do visitAll document steps; visitAll document steps') :=
  List.forM_append

theorem readField_eq (document : JsonValue) (key : String) (parse : JsonValue → Except String α)
    (out : α → σ → σ) :
    readField document key parse out = visitAll document [fieldStep key parse out] := by
  rw [visitAll_cons, readField, visit, fieldStep]
  simp only [JsonValue.atPath]
  cases document.find key with
  | none => rfl
  | some value =>
    simp only [Option.bind_some]
    cases parse value with
    | ok parsed => rfl
    | error error => rfl

theorem readSection_eq {steps : List (Step σ)} {body : JsonValue → Load σ Unit}
    (hbody : ∀ value, body value = visitAll value steps) (document : JsonValue)
    (key name : String) :
    readSection document key name body =
      visitAll document (sectionStep key name :: steps.map (Step.under key)) := by
  rw [visitAll_cons, readSection, visit, sectionStep]
  simp only [JsonValue.atPath]
  cases hfind : document.find key with
  | none =>
    -- no step of the section finds a value
    have hskip : ∀ steps : List (Step σ),
        visitAll document (steps.map (Step.under key)) = pure () := by
      intro steps
      induction steps with
      | nil => rfl
      | cons step steps ih =>
        rw [List.map_cons, visitAll_cons, ih, visit, Step.under, JsonValue.atPath, hfind]
        rfl
    rw [hskip]
    rfl
  | some value =>
    have hsame : ∀ steps : List (Step σ),
        visitAll document (steps.map (Step.under key)) = visitAll value steps := by
      intro steps
      induction steps with
      | nil => rfl
      | cons step steps ih =>
        rw [List.map_cons, visitAll_cons, ih, visitAll_cons, visit, Step.under, JsonValue.atPath,
          hfind]
        rfl
    rw [hsame]
    simp only [Option.bind_some]
    split_ifs with hobject
    · exact hbody value
    · rfl

/-! ## Runs -/

/-- The step finds no value, or one that it can read. -/
def Step.Passes (document : JsonValue) (step : Step σ) : Prop :=
  ∀ value, document.atPath step.path = some value → ∃ update, step.read value = .ok update

/-- What a step makes of the record. -/
def Step.apply (step : Step σ) (document : JsonValue) (record : σ) : σ :=
  match document.atPath step.path with
  | none => record
  | some value =>
    match step.read value with
    | .ok update => update record
    | .error _ => record

theorem exec_bind (load : Load σ Unit) (next : Load σ α) (record : σ) :
    exec (do load; next) record =
      match exec load record with
      | (.ok (), record) => exec next record
      | (.error error, record) => (.error error, record) := by
  simp only [exec, ExceptT.run_bind, StateT.run_bind]
  rcases (ExceptT.run load).run record with ⟨error | ⟨⟩, record⟩
  · rfl
  · rfl

theorem exec_visit_of_passes {document : JsonValue} {step : Step σ} (h : step.Passes document)
    (record : σ) : exec (visit document step) record = (.ok (), step.apply document record) := by
  rw [visit, Step.apply]
  cases hat : document.atPath step.path with
  | none => rfl
  | some value =>
    obtain ⟨update, hread⟩ := h value hat
    simp only [hread]
    rfl

theorem exec_visit_of_not_passes {document : JsonValue} {step : Step σ}
    (h : ¬step.Passes document) (record : σ) :
    ∃ value error, step.read value = .error error ∧
      exec (visit document step) record = (.error error, record) := by
  simp only [Step.Passes, not_forall] at h
  obtain ⟨value, hat, hread⟩ := h
  rw [visit, hat]
  cases hvalue : step.read value with
  | ok update => exact absurd ⟨update, hvalue⟩ hread
  | error error =>
    simp only [hvalue]
    exact ⟨value, error, hvalue, rfl⟩

/-- Steps that all pass update the record one after the other. -/
theorem exec_visitAll_of_passes {document : JsonValue} {steps : List (Step σ)}
    (h : ∀ step ∈ steps, step.Passes document) (record : σ) :
    exec (visitAll document steps) record =
      (.ok (), steps.foldl (fun record step ↦ step.apply document record) record) := by
  induction steps generalizing record with
  | nil => rfl
  | cons step steps ih =>
    obtain ⟨hstep, hsteps⟩ := List.forall_mem_cons.mp h
    rw [visitAll_cons, exec_bind, exec_visit_of_passes hstep, List.foldl_cons]
    exact ih hsteps _

/-- If not all of them pass, the error is that of a step. -/
theorem exec_visitAll_of_not_passes {document : JsonValue} {steps : List (Step σ)}
    (h : ¬∀ step ∈ steps, step.Passes document) (record : σ) :
    ∃ step ∈ steps, ∃ value error, step.read value = .error error ∧
      (exec (visitAll document steps) record).1 = .error error := by
  induction steps generalizing record with
  | nil => exact absurd (by simp) h
  | cons step steps ih =>
    rw [visitAll_cons, exec_bind]
    by_cases hstep : step.Passes document
    · rw [exec_visit_of_passes hstep]
      obtain ⟨failing, hmem, hfails⟩ := ih
        (fun hsteps ↦ h (List.forall_mem_cons.mpr ⟨hstep, hsteps⟩)) (step.apply document record)
      exact ⟨failing, List.mem_cons_of_mem _ hmem, hfails⟩
    · obtain ⟨value, error, hread, hexec⟩ := exec_visit_of_not_passes hstep record
      rw [hexec]
      exact ⟨step, List.mem_cons_self, value, error, hread, rfl⟩

/-- Two documents that the steps cannot tell apart are read alike. -/
theorem visitAll_congr {document document' : JsonValue} {steps : List (Step σ)}
    (h : ∀ step ∈ steps, visit document step = visit document' step) :
    visitAll document steps = visitAll document' steps := by
  induction steps with
  | nil => rfl
  | cons step steps ih =>
    obtain ⟨hstep, hsteps⟩ := List.forall_mem_cons.mp h
    rw [visitAll_cons, visitAll_cons, hstep, ih hsteps]

end Load
