import TreeShell.Document
/-!
# Documents, their equality and their fields

Documents can be compared (`Document.same`), so that what a text is read as can be evaluated. Of a record's fields the
order matters only among those of one key (`Document.Shows.valuesOf_perm`): a record shows some fields if it has just
these among fields that nobody asks for, in any order.
-/

namespace TreeShell

namespace Document

/-! ## Equal documents -/

mutual
/-- Whether two documents are equal. -/
def same : Document → Document → Bool
  | .null, .null => true
  | .bool a, .bool b => a == b
  | .natural a, .natural b => a == b
  | .integer a, .integer b => a == b
  | .real a, .real b => a == b
  | .text a, .text b => a == b
  | .date a, .date b => a == b
  | .list as, .list bs => sameItems as bs
  | .record as, .record bs => sameFields as bs
  | .unreadable, .unreadable => true
  | _, _ => false
termination_by structural a => a

def sameItems : List Document → List Document → Bool
  | [], [] => true
  | a :: as, b :: bs => same a b && sameItems as bs
  | _, _ => false
termination_by structural as => as

def sameFields : List (String × Document) → List (String × Document) → Bool
  | [], [] => true
  | (k, a) :: as, (l, b) :: bs => k == l && same a b && sameFields as bs
  | _, _ => false
termination_by structural as => as
end

mutual
theorem eq_of_same : ∀ {a b : Document}, same a b = true → a = b
  | .list _, .list _, h => congrArg Document.list (eq_of_sameItems h)
  | .record _, .record _, h => congrArg Document.record (eq_of_sameFields h)
  | .null, b, h | .bool _, b, h | .natural _, b, h | .integer _, b, h | .real _, b, h | .text _, b, h | .date _, b, h
  | .unreadable, b, h => by
    cases b <;> simp_all [same]

theorem eq_of_sameItems : ∀ {as bs : List Document}, sameItems as bs = true → as = bs
  | [], [], _ => rfl
  | _ :: _, _ :: _, h => by
    rw [sameItems, Bool.and_eq_true] at h
    rw [eq_of_same h.1, eq_of_sameItems h.2]

theorem eq_of_sameFields : ∀ {as bs : List (String × Document)}, sameFields as bs = true → as = bs
  | [], [], _ => rfl
  | (_, _) :: _, (_, _) :: _, h => by
    simp only [sameFields, Bool.and_eq_true, beq_iff_eq] at h
    rw [h.1.1, eq_of_same h.1.2, eq_of_sameFields h.2]
end

/-- What a reader of documents returns can be evaluated. -/
theorem eq_some_of_same {read : Option Document} {d : Document} (h : read.any (·.same d) = true) : read = some d := by
  cases read with
  | none => cases h
  | some a => exact congrArg some (eq_of_same h)

/-! ## Fields in any order -/

/-- A record shows the written fields if these are its own, in any order, but for fields whose keys are not known. -/
def Shows (known : List String) (written fields : List (String × Document)) : Prop :=
  ∃ added, fields.Perm (written ++ added) ∧ ∀ field ∈ added, field.1 ∉ known

variable {key : String} {value : Document} {known : List String} {written fields : List (String × Document)}

theorem mem_valuesOf : value ∈ valuesOf key fields ↔ (key, value) ∈ fields := by
  simp [valuesOf]

theorem valuesOf_cons (key name : String) (value : Document) (fields : List (String × Document)) :
    valuesOf key ((name, value) :: fields) = if name = key then value :: valuesOf key fields else valuesOf key fields := by
  by_cases h : name = key <;> simp [valuesOf, h]

theorem valuesOf_of_forall_eq (h : ∀ field ∈ fields, field.1 = key) : valuesOf key fields = fields.map Prod.snd := by
  rw [valuesOf, List.filter_eq_self.2 fun field hm => decide_eq_true (h field hm)]

theorem valuesOf_of_forall_ne (h : ∀ field ∈ fields, field.1 ≠ key) : valuesOf key fields = [] := by
  rw [valuesOf, List.filter_eq_nil_iff.2 fun field hm he => h field hm (of_decide_eq_true he), List.map_nil]

theorem length_valuesOf (key : String) (fields : List (String × Document)) :
    (valuesOf key fields).length = (fields.map Prod.fst).count key := by
  induction fields with
  | nil => rfl
  | cons field rest ih =>
    by_cases h : field.1 = key
    · simpa [valuesOf, h] using ih
    · simpa [valuesOf, h] using ih

theorem Shows.valuesOf_perm (h : Shows known written fields) (hk : key ∈ known) :
    (valuesOf key fields).Perm (valuesOf key written) := by
  obtain ⟨added, hperm, hadded⟩ := h
  have hnone : valuesOf key added = [] := valuesOf_of_forall_ne fun field hm he => hadded field hm (he ▸ hk)
  have hp : (valuesOf key fields).Perm (valuesOf key (written ++ added)) := (hperm.filter _).map Prod.snd
  rwa [valuesOf, valuesOf, List.filter_append, List.map_append, ← valuesOf, ← valuesOf, ← valuesOf, hnone,
    List.append_nil] at hp

/-- What a known key that is written at most once leads to. -/
theorem Shows.valuesOf_eq (h : Shows known written fields) (hk : key ∈ known)
    (hone : (valuesOf key written).length ≤ 1) : valuesOf key fields = valuesOf key written := by
  have hp := h.valuesOf_perm hk
  cases hw : valuesOf key written with
  | nil => rwa [hw, List.perm_nil] at hp
  | cons value rest =>
    cases rest with
    | nil => rwa [hw, List.perm_singleton] at hp
    | cons next rest => simp [hw] at hone

end Document

end TreeShell
