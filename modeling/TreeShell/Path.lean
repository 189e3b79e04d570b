import TreeShell.Text.Split
/-!
# Locations in the tree

A `Path` is a location counted from the root: the names to follow, none of which is empty, `.` or `..`.
`Path.push` is the one step that all constructions share: it takes a token, drops an empty one and `.`,
goes up for `..` (the root is its own parent) and goes down for any other. `Path.resolve` reads what a
user types against the current location and the home.

A name may hold a slash when it was pushed whole; a path that was read from text never holds one
(`slash_notMem_of_mem_ofText`).
-/

namespace TreeShell

open Text

/-- A token that stands for a child: not empty, not `.` and not `..`. -/
def IsSegment (token : String) : Prop := token ≠ "" ∧ token ≠ "." ∧ token ≠ ".."

instance (token : String) : Decidable (IsSegment token) := inferInstanceAs (Decidable (_ ∧ _ ∧ _))

/-- A location: the names that lead to it from the root. -/
@[ext] structure Path where
  segments : List String
  isSegment : ∀ s ∈ segments, IsSegment s
  deriving DecidableEq

namespace Path

def root : Path := ⟨[], by simp⟩

instance : Inhabited Path := ⟨root⟩

/-- The containing directory; the root is its own. -/
def parent (p : Path) : Path := ⟨p.segments.dropLast, fun s h => p.isSegment s (List.dropLast_subset _ h)⟩

/-- One token further: down into a child, up for `..`, and nowhere for an empty token and `.`. -/
def push (p : Path) (token : String) : Path :=
  if h : IsSegment token then ⟨p.segments ++ [token], by
    intro s hs
    rcases List.mem_append.1 hs with hs | hs
    · exact p.isSegment s hs
    · rw [List.mem_singleton.1 hs]; exact h⟩
  else if token = ".." then p.parent
  else p

/-- Several tokens further, from left to right. -/
def pushAll (p : Path) (tokens : List String) : Path := tokens.foldl push p

/-- The location that a list of tokens leads to from the root. -/
def ofTokens (tokens : List String) : Path := root.pushAll tokens

/-- The location that a text names, read from the root: its tokens are the pieces between slashes. -/
def ofText (raw : String) : Path := ofTokens (split '/' raw)

/-- Where a typed path starts and what is left to follow. A leading slash starts at the root; `~` alone
or before a slash starts at home; a name that merely begins with a tilde is a name under home; all else
starts at the current location. -/
def start (raw : String) (current home : Path) : Path × String :=
  match raw.toList with
  | '/' :: rest => (root, String.ofList rest)
  | '~' :: '/' :: rest => (home, String.ofList rest)
  | ['~'] => (home, "")
  | '~' :: _ => (home, raw)
  | _ => (current, raw)

/-- The location that a typed path names. It need not exist. -/
def resolve (raw : String) (current home : Path) : Path :=
  let (base, rest) := start raw current home
  base.pushAll (split '/' rest)

/-- The written form: a slash before each name, and a lone slash for the root. -/
def text (p : Path) : String :=
  if p.segments = [] then "/" else String.ofList (p.segments.flatMap fun s => '/' :: s.toList)

instance : ToString Path := ⟨text⟩

/-- The names below `base`, if the path is `base` or lies under it. -/
def below? (p base : Path) : Option (List String) :=
  if base.segments.isPrefixOf p.segments then some (p.segments.drop base.segments.length) else none

def isRoot (p : Path) : Bool := p.segments.isEmpty

/-- The number of names. -/
def length (p : Path) : Nat := p.segments.length

@[simp] theorem segments_root : root.segments = [] := rfl

@[simp] theorem segments_parent (p : Path) : p.parent.segments = p.segments.dropLast := rfl

theorem segments_push (p : Path) (token : String) :
    (p.push token).segments =
      if IsSegment token then p.segments ++ [token]
      else if token = ".." then p.segments.dropLast
      else p.segments := by
  unfold push
  split
  · rfl
  · split <;> rfl

theorem segments_push_of_isSegment (p : Path) {token : String} (h : IsSegment token) :
    (p.push token).segments = p.segments ++ [token] := by
  simp [segments_push, h]

/-- Every name of where tokens lead to was there before or is one of them. -/
theorem mem_segments_pushAll {p : Path} {tokens : List String} {name : String}
    (h : name ∈ (p.pushAll tokens).segments) : name ∈ p.segments ∨ name ∈ tokens := by
  induction tokens generalizing p with
  | nil => exact .inl h
  | cons t ts ih =>
    rcases ih h with hm | hm
    · rw [segments_push] at hm
      split at hm
      · rcases List.mem_append.1 hm with hm | hm
        · exact .inl hm
        · exact .inr (by simp [List.mem_singleton.1 hm])
      · split at hm
        · exact .inl (List.dropLast_subset _ hm)
        · exact .inl hm
    · exact .inr (List.mem_cons_of_mem t hm)

/-- Every name of a path read from text is a piece between two slashes. -/
theorem slash_notMem_of_mem_pushAll {p : Path} {tokens : List String}
    (hp : ∀ s ∈ p.segments, '/' ∉ s.toList) (ht : ∀ t ∈ tokens, '/' ∉ t.toList) :
    ∀ s ∈ (p.pushAll tokens).segments, '/' ∉ s.toList := by
  intro s hs
  rcases mem_segments_pushAll hs with hs | hs
  · exact hp s hs
  · exact ht s hs

theorem slash_notMem_of_mem_split {raw token : String} (h : token ∈ split '/' raw) : '/' ∉ token.toList := by
  obtain ⟨piece, hp, rfl⟩ := List.mem_map.1 h
  simpa using sep_notMem_of_mem_splitChars hp

theorem slash_notMem_of_mem_ofText (raw : String) : ∀ s ∈ (ofText raw).segments, '/' ∉ s.toList :=
  slash_notMem_of_mem_pushAll (by simp) fun _ h => slash_notMem_of_mem_split h

end Path

end TreeShell
