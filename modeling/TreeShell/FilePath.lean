import TreeShell.Text.Split
/-!
# Paths of files

The text of a path in the file system that the program runs in. Doubled slashes, slashes at the end and
steps of one point do not count for the names in a path, but they are part of its text, and a slash or a
point at its end asks for a directory when a file is opened. `parent?` takes the last name off the text and
makes it shorter (`length_lt_of_parent?`).
-/

namespace TreeShell.FilePath

open Text

def isAbsolute (path : String) : Bool := path.toList.head? == some '/'

/-- The names that a path follows, `..` among them. -/
def names (path : String) : List String := (split '/' path).filter fun name => name != "" && name != "."

/-- The last name, unless it is `..`. -/
def fileName? (path : String) : Option String :=
  match (names path).getLast? with
  | some ".." => none
  | last => last

/-- What follows the last point of a name that does not start with it. -/
def extensionOfName? (name : String) : Option String :=
  match (splitChars '.' name.toList).reverse with
  | _ :: [] :: [] => none
  | last :: _ :: _ => some (String.ofList last)
  | _ => none

/-- The extension of a file's name; it may be empty. -/
def extension? (path : String) : Option String := (fileName? path).bind extensionOfName?

/-- A path that ends with a further name. -/
def join (path name : String) : String :=
  match path.toList.getLast? with
  | none => name
  | some '/' => path ++ name
  | some _ => path ++ "/" ++ name

/-- A path without the slashes and the steps of one point at its end, given and answered from its end on. -/
def trimSteps : List Char → List Char
  | '/' :: cs => trimSteps cs
  | ['.'] => []
  | '.' :: '/' :: cs => trimSteps cs
  | cs => cs

/-- A path up to the end of its last name. -/
def trimEnd (path : String) : String := String.ofList (trimSteps path.toList.reverse).reverse

/-- The start of a path that is no name but stays when names are taken off its end: the slash of the root,
or a point in the place of the first name. -/
def stem : List Char → List Char
  | '/' :: _ => ['/']
  | ['.'] => ['.']
  | '.' :: '/' :: _ => ['.']
  | _ => []

/-- The text of a path without its last name. The root and the empty path have none to take off. -/
def parent? (path : String) : Option String :=
  let start := stem path.toList
  match trimSteps (path.toList.drop start.length).reverse with
  | [] => if start = ['.'] then some "" else none
  | cs => some (String.ofList (start ++ (trimSteps (cs.dropWhile (· != '/'))).reverse))

/-- The names of a path, joined again. -/
def normalized (path : String) : String := (if isAbsolute path then "/" else "") ++ Text.join "/" (names path)

/-! ## Parents are shorter -/

theorem length_trimSteps_le (cs : List Char) : (trimSteps cs).length ≤ cs.length := by
  fun_induction trimSteps cs <;> simp_all <;> omega

theorem head?_trimSteps_ne (cs : List Char) : (trimSteps cs).head? ≠ some '/' := by
  fun_induction trimSteps cs <;> simp_all
  next cs h _ _ => cases cs <;> simp_all

theorem length_dropWhile_lt (p : Char → Bool) {c : Char} (cs : List Char) (h : p c = true) :
    ((c :: cs).dropWhile p).length < (c :: cs).length := by
  have := (List.dropWhile_suffix (l := cs) p).length_le
  simp [h]
  omega

theorem length_stem_le (cs : List Char) : (stem cs).length ≤ cs.length := by
  unfold stem
  split <;> simp

/-- Taking off a name makes a path shorter. -/
theorem length_lt_of_parent? {path above : String} (h : parent? path = some above) : above.length < path.length := by
  simp only [parent?] at h
  have hstem := length_stem_le path.toList
  have htrim := length_trimSteps_le (path.toList.drop (stem path.toList).length).reverse
  have hhead := head?_trimSteps_ne (path.toList.drop (stem path.toList).length).reverse
  simp only [List.length_reverse, List.length_drop] at htrim
  rw [← String.length_toList, ← String.length_toList]
  split at h
  · split at h
    · next hs =>
      cases h
      rw [hs] at hstem
      simpa [Nat.lt_iff_add_one_le] using hstem
    · cases h
  · next hne =>
    cases h
    generalize trimSteps (path.toList.drop (stem path.toList).length).reverse = cs at htrim hhead hne
    cases cs with
    | nil => exact absurd rfl hne
    | cons c cs =>
      have hc : (c != '/') = true := by simpa using hhead
      have hd := length_dropWhile_lt (· != '/') cs hc
      have ht := length_trimSteps_le ((c :: cs).dropWhile (· != '/'))
      simp only [String.toList_ofList, List.length_append, List.length_reverse]
      omega

end TreeShell.FilePath
