import TreeShell.Proofs.Config.Keys
import TreeShell.Proofs.Config.Values
import TreeShell.Proofs.Document
/-!
# The layers of files

Which layers `load` merges (`load_eq`), and which layer a file stands for that is there under its very path
(`FileHolds.layer_eq`). In a table that was made from a document every key stands once.
-/

namespace TreeShell

namespace Config

open Value

/-! ## Files -/

/-- The layer of the account's file. -/
def accountLayer (r : Readers) (d : Disk) (env : Environment) : Except Error Layer :=
  match accountFile env with
  | .ok file => optionalLayer r d file
  | .error _ => .ok []

/-- The layer of the given file. -/
def givenLayer (r : Readers) (d : Disk) : Option String → Except Error Layer
  | some file => requiredLayer r d file
  | none => .ok []

/-- The layers of all sources, the lowest first. -/
def layersOf (r : Readers) (d : Disk) (env : Environment) (path : Option String) : Except Error (List Layer) := do
  pure [← accountLayer r d env, ← givenLayer r d path, environmentLayer env]

theorem load_eq (r : Readers) (d : Disk) (env : Environment) (path : Option String) :
    load r d env path = layersOf r d env path >>= settingsOf := by
  simp only [layersOf, bind_assoc, pure_bind, load, accountLayer]
  cases accountFile env <;> cases path <;> rfl

/-- A file that is there under its very path, and the layer that its text stands for. -/
inductive FileHolds (r : Readers) (d : Disk) (path : String) : Layer → Prop
  | intro {format : Format} {extension text : String} {fields : List (String × Document)}
    (mem_extensions : extension ∈ format.extensions) (extension_eq : FilePath.extension? path = some extension)
    (readText : d.readText path = .ok text) (read : r.read? format text = some (.record fields)) :
    FileHolds r d path (ofFields (some (FilePath.normalized path)) fields [])

/-- No file is found for the account: the environment does not tell its path, or there is nothing under that path,
nor with an extension of a format added to it. -/
def NoAccountFile (d : Disk) (env : Environment) : Prop :=
  ∀ path, accountFile env = .ok path →
    d.isFile path = false ∧ ∀ format : Format, ∀ e ∈ format.extensions, d.isFile (withExtension path e) = false

inductive AccountHolds (r : Readers) (d : Disk) (env : Environment) : Layer → Prop
  | file {path : String} {layer : Layer} (path_eq : accountFile env = .ok path) (holds : FileHolds r d path layer) :
    AccountHolds r d env layer
  | absent (absent : NoAccountFile d env) : AccountHolds r d env []

inductive GivenHolds (r : Readers) (d : Disk) : Option String → Layer → Prop
  | file {path : String} {layer : Layer} (holds : FileHolds r d path layer) : GivenHolds r d (some path) layer
  | notGiven : GivenHolds r d none []

/-- An extension belongs to one format. -/
theorem Format.eq_of_mem_extensions {f g : Format} {e : String} (hf : e ∈ f.extensions) (hg : e ∈ g.extensions) : f = g := by
  cases f <;> cases g <;> simp only [extensions, List.mem_cons, List.not_mem_nil, or_false] at hf hg ⊢ <;> simp_all

variable {r : Readers} {d : Disk} {env : Environment}

/-- In whatever order formats are tried, a file has the format of its extension. -/
theorem findFile_of_extension {path extension : String} {format : Format} (hfile : d.isFile path = true)
    (hmem : extension ∈ format.extensions) (hextension : FilePath.extension? path = some extension) :
    findFile r d path = .ok (path, format) := by
  have hbelongs : ∀ f : Format, (f.extensions.any fun e => some e = FilePath.extension? path) = decide (f = format) := by
    intro f
    rw [Bool.eq_iff_iff, hextension, List.any_eq_true, decide_eq_true_iff]
    constructor
    · rintro ⟨e, he, heq⟩
      obtain rfl : e = extension := by simpa using heq
      exact Format.eq_of_mem_extensions he hmem
    · rintro rfl
      exact ⟨extension, hmem, by simp⟩
  have hfound : r.order.find? (fun f => decide (f = format)) = some format := by
    cases h : r.order.find? fun f => decide (f = format) with
    | none => exact absurd (decide_eq_true rfl) (List.find?_eq_none.1 h format (r.mem_order format))
    | some f =>
      have hf := List.find?_some h
      rw [of_decide_eq_true hf]
  simp only [findFile, if_pos hfile, hbelongs, hfound]

theorem FileHolds.layer_eq {path : String} {layer : Layer} (h : FileHolds r d path layer) :
    requiredLayer r d path = .ok layer ∧ optionalLayer r d path = .ok layer := by
  obtain @⟨format, extension, text, fields, hmem, hextension, htext, hread⟩ := h
  have hfile : d.isFile path = true := by
    simp only [Disk.readText] at htext
    cases hr : d.read path with
    | error e => rw [hr] at htext; cases htext
    | ok content => simp [Disk.isFile, hr, Except.isOk, Except.toBool]
  have hopen : openFile r d path = .ok (text, FilePath.normalized path, format) := by
    simp only [openFile, findFile_of_extension hfile hmem hextension, htext]
  constructor
  · simp only [requiredLayer, hopen, layerOfText, hread]
  · simp only [optionalLayer, hopen, layerOfText, hread]

theorem NoAccountFile.accountLayer_eq (h : NoAccountFile d env) : accountLayer r d env = .ok [] := by
  cases hpath : accountFile env with
  | error e => simp only [accountLayer, hpath]
  | ok file =>
    obtain ⟨hfile, hformats⟩ := h file hpath
    have hfind : findFile r d file = .error (.missingFile file) := by
      simp only [findFile, hfile, Bool.false_eq_true, if_false]
      split
      · next found hfound =>
        obtain ⟨format, -, hmem⟩ := List.mem_flatMap.1 (List.mem_of_find?_eq_some hfound)
        obtain ⟨e, he, rfl⟩ := List.mem_map.1 hmem
        have hthere := List.find?_some hfound
        simp [hformats format e he] at hthere
      · rfl
    simp only [accountLayer, hpath, optionalLayer, openFile, hfind]

theorem AccountHolds.accountLayer_eq {layer : Layer} (h : AccountHolds r d env layer) :
    accountLayer r d env = .ok layer := by
  cases h with
  | file path_eq holds => simp only [accountLayer, path_eq, holds.layer_eq.2]
  | absent h => exact h.accountLayer_eq

theorem GivenHolds.givenLayer_eq {path : Option String} {layer : Layer} (h : GivenHolds r d path layer) :
    givenLayer r d path = .ok layer := by
  cases h with
  | file holds => exact holds.layer_eq.1
  | notGiven => rfl

/-- Without a file for the account, only the given file counts. -/
theorem load_eq_loadFile (h : NoAccountFile d env) (path : String) :
    load r d env (some path) = loadFile r d env path := by
  rw [load_eq, layersOf, h.accountLayer_eq, loadFile, givenLayer]
  cases requiredLayer r d path <;> rfl

/-! ## Keys of documents -/

/-- Each key of a table stands once. -/
def HasDistinctKeys (v : Value) : Prop := v.keys.Nodup

/-- All keys of a table are plain. -/
def HasPlainKeys (v : Value) : Prop := ∀ k ∈ v.keys, IsPlain k

theorem keyed_of_plain {v : Value} (hdistinct : v.Throughout HasDistinctKeys) (hplain : v.Throughout HasPlainKeys) :
    v.Throughout Keyed := fun q w hw => ⟨hdistinct q w hw, fun k hk => (hplain q w hw k hk).lower_eq⟩

theorem hasDistinctKeys_of_entries_nil {v : Value} (h : v.entries = []) : v.Throughout HasDistinctKeys :=
  throughout_of_entries_nil (by simp [HasDistinctKeys, keys, h]) h

mutual
theorem hasDistinctKeys_ofDocument (origin : Option String) :
    ∀ document : Document, (ofDocument origin document).Throughout HasDistinctKeys
  | .record fields => hasDistinctKeys_ofFields origin origin fields (hasDistinctKeys_of_entries_nil rfl)
  | .null | .bool _ | .natural _ | .integer _ | .real _ | .text _ | .date _ | .list _ | .unreadable =>
    hasDistinctKeys_of_entries_nil rfl
termination_by structural document => document

theorem hasDistinctKeys_ofFields (tableOrigin origin : Option String) : ∀ (fields : List (String × Document))
    {entries : List (String × Value)}, (table tableOrigin entries).Throughout HasDistinctKeys →
      (table tableOrigin (ofFields origin fields entries)).Throughout HasDistinctKeys
  | [], _, h => h
  | (key, document) :: rest, _, h =>
    hasDistinctKeys_ofFields tableOrigin origin rest
      (h.put (hasDistinctKeys_ofDocument origin document) (nodup_keys_put h.here key _))
termination_by structural fields => fields
end

theorem FileHolds.hasDistinctKeys {path : String} {layer : Layer} (h : FileHolds r d path layer) :
    (table none layer).Throughout HasDistinctKeys := by
  obtain ⟨-, -, -⟩ := h
  exact hasDistinctKeys_ofFields none _ _ (hasDistinctKeys_of_entries_nil rfl)

theorem AccountHolds.hasDistinctKeys {layer : Layer} (h : AccountHolds r d env layer) :
    (table none layer).Throughout HasDistinctKeys := by
  cases h with
  | file _ holds => exact holds.hasDistinctKeys
  | absent => exact hasDistinctKeys_of_entries_nil rfl

theorem GivenHolds.hasDistinctKeys {path : Option String} {layer : Layer} (h : GivenHolds r d path layer) :
    (table none layer).Throughout HasDistinctKeys := by
  cases h with
  | file holds => exact holds.hasDistinctKeys
  | notGiven => exact hasDistinctKeys_of_entries_nil rfl

end Config

end TreeShell
