import TreeShell.Manifest.File
import TreeShell.Proofs.Document
/-!
# What a document says as a manifest

A document renders a manifest if its records hold the fields of the entries, in any order and among others; a file's
text and a directory's children may be left out where they are empty. Every such document decodes to the manifest.
A document with a faulty entry, however deep it is, decodes to none (`decoding_ignores_presentation`). What makes a
record an entry is said once (`Entry.ofDocument?_record_eq_some_iff`).
-/

namespace TreeShell

open Document

/-! ## Kinds of entries -/

namespace EntryKind

/-- The word that stands for a kind. -/
def word : EntryKind → String
  | directory => "dir"
  | file => "file"

/-- The number that stands for a kind below the first level. -/
def number : EntryKind → Nat
  | directory => 0
  | file => 1

/-- The key of the field that only entries of a kind have. -/
def ownKey : EntryKind → String
  | directory => "children"
  | file => "content"

/-- A kind is named by its word and, below the first level, by its number. -/
def NamedBy (kind : EntryKind) (nested : Bool) (d : Document) : Prop :=
  d = .text kind.word ∨ nested = true ∧ d = .natural kind.number

theorem ofDocument?_eq_some_iff {nested : Bool} {d : Document} {kind : EntryKind} :
    ofDocument? nested d = some kind ↔ kind.NamedBy nested d := by
  unfold ofDocument? NamedBy
  split
  · cases kind <;> simp [word]
  · cases kind <;> simp [word]
  · next n =>
    cases nested with
    | false => simp
    | true =>
      rcases n with _ | _ | n
      · cases kind <;> simp [number]
      · cases kind <;> simp [number]
      · cases kind <;> simp [number]
  · next hdir hfile hnatural =>
    constructor
    · rintro ⟨⟩
    · rintro (h | ⟨-, h⟩)
      · cases kind with
        | directory => exact absurd h hdir
        | file => exact absurd h hfile
      · exact absurd h (hnatural _)

end EntryKind

/-! ## Entries as records -/

/-- The entries that the values of a children field stand for. -/
def Entry.childrenOf? : List Document → Option (List Entry)
  | [] => some []
  | [value] => Entry.listOf? true value
  | _ => none

/-- The text or the entries that belong to a kind, from the values of its own field. -/
def Entry.withOwn? (name : String) : EntryKind → List Document → Option Entry
  | .file, values => (contentOf? values).map (.file name)
  | .directory, values => (Entry.childrenOf? values).map (.directory name)

theorem Entry.childrenIn?_eq (fields : List (String × Document)) :
    Entry.childrenIn? fields = match valuesOf "children" fields with
      | [] => some []
      | value :: _ => Entry.listOf? true value := by
  induction fields with
  | nil => rfl
  | cons field rest ih =>
    obtain ⟨key, value⟩ := field
    by_cases h : key = "children"
    · simp [Entry.childrenIn?, valuesOf, h]
    · rw [Entry.childrenIn?, if_neg h, ih]
      simp [valuesOf, h]

theorem Document.once?_eq_some_iff {values : List Document} {value : Document} :
    once? values = some value ↔ values = [value] := by
  unfold once?
  split
  · simp
  · next h => simpa using fun he => h _ he

theorem Document.asText?_eq_some_iff {d : Document} {text : String} : asText? d = some text ↔ d = .text text := by
  cases d <;> simp [asText?]

/-- A record is an entry where its type names a kind and its name is a text, each written once, and the field that
belongs to the kind can be read. -/
theorem Entry.ofDocument?_record_eq_some_iff {nested : Bool} {fields : List (String × Document)} {entry : Entry} :
    Entry.ofDocument? nested (.record fields) = some entry ↔
      ∃ kind value name, valuesOf "type" fields = [value] ∧ EntryKind.NamedBy kind nested value ∧
        valuesOf "name" fields = [.text name] ∧ Entry.withOwn? name kind (valuesOf kind.ownKey fields) = some entry := by
  have hchildren : ∀ name, Entry.withOwn? name .directory (valuesOf "children" fields) =
      if (valuesOf "children" fields).length ≤ 1 then (Entry.childrenIn? fields).map (.directory name) else none := by
    intro name
    simp only [Entry.withOwn?, Entry.childrenIn?_eq]
    rcases valuesOf "children" fields with _ | ⟨value, _ | ⟨next, rest⟩⟩ <;> simp [Entry.childrenOf?]
  simp only [Entry.ofDocument?, Option.bind_eq_bind, Option.bind_eq_some_iff, once?_eq_some_iff, asText?_eq_some_iff]
  constructor
  · rintro ⟨value, htype, kind, hkind, _, hname, name, rfl, h⟩
    refine ⟨kind, value, name, htype, EntryKind.ofDocument?_eq_some_iff.1 hkind, hname, ?_⟩
    cases kind with
    | file => exact h
    | directory => exact (hchildren name).trans h
  · rintro ⟨kind, value, name, htype, hkind, hname, h⟩
    refine ⟨value, htype, kind, EntryKind.ofDocument?_eq_some_iff.2 hkind, _, hname, name, rfl, ?_⟩
    cases kind with
    | file => exact h
    | directory => exact (hchildren name).symm.trans h

theorem Entry.allOf?_eq_some_of_mem {nested : Bool} {items : List Document} {entries : List Entry}
    (h : Entry.allOf? nested items = some entries) {item : Document} (hm : item ∈ items) :
    ∃ entry, Entry.ofDocument? nested item = some entry := by
  induction items generalizing entries with
  | nil => cases hm
  | cons first rest ih =>
    simp only [Entry.allOf?, Option.bind_eq_bind, Option.bind_eq_some_iff] at h
    obtain ⟨entry, hfirst, others, hrest, -⟩ := h
    rcases List.mem_cons.1 hm with rfl | hm
    · exact ⟨entry, hfirst⟩
    · exact ih hrest hm

/-- The root is read like any record, of its children alone. -/
theorem Manifest.ofDocument?_record_eq_some_iff {fields : List (String × Document)} {m : Manifest} :
    Manifest.ofDocument? (.record fields) = some m ↔
      valuesOf "children" fields = [] ∧ m.children = [] ∨
        ∃ items, valuesOf "children" fields = [.list items] ∧ Entry.allOf? false items = some m.children := by
  obtain ⟨children⟩ := m
  unfold Manifest.ofDocument?
  rcases hv : valuesOf "children" fields with _ | ⟨value, _ | ⟨next, rest⟩⟩
  · simp [parts?, hv, read?, @eq_comm _ [] children]
  · simp only [parts?, read?]
    cases value <;> simp [Entry.listOf?, hv]
  · simp [parts?, hv]

/-! ## Renderings -/

mutual
/-- A record that renders an entry. -/
inductive Entry.RenderedBy : Entry → Document → Prop
  | file {name content written fields}
    (hown : written = [("content", .text content)] ∨ content = "" ∧ written = [])
    (h : Shows ["type", "name", "content"] (("type", .text "file") :: ("name", .text name) :: written) fields) :
    RenderedBy (.file name content) (.record fields)
  | directory {name children items written fields} (hitems : AllRenderedBy children items)
    (hown : written = [("children", .list items)] ∨ children = [] ∧ written = [])
    (h : Shows ["type", "name", "children"] (("type", .text "dir") :: ("name", .text name) :: written) fields) :
    RenderedBy (.directory name children) (.record fields)

/-- Records that render entries, one each and in their order. -/
inductive Entry.AllRenderedBy : List Entry → List Document → Prop
  | nil : AllRenderedBy [] []
  | cons {entry entries item items} (h : RenderedBy entry item) (hrest : AllRenderedBy entries items) :
    AllRenderedBy (entry :: entries) (item :: items)
end

/-- A record that renders a manifest. -/
inductive Manifest.RenderedBy : Manifest → Document → Prop
  | root {children items written fields} (hitems : Entry.AllRenderedBy children items)
    (hown : written = [("children", .list items)] ∨ children = [] ∧ written = [])
    (h : Shows ["children"] written fields) : RenderedBy ⟨children⟩ (.record fields)

/-- Fields that show the type, the name and at most one value of the own field make the entry of that value. -/
theorem Entry.ofDocument?_of_shows (kind : EntryKind) {name : String} {written fields : List (String × Document)}
    {entry : Entry} (hkey : ∀ field ∈ written, field.1 = kind.ownKey) (hone : written.length ≤ 1)
    (h : Shows ["type", "name", kind.ownKey] (("type", .text kind.word) :: ("name", .text name) :: written) fields)
    (hown : Entry.withOwn? name kind (written.map Prod.snd) = some entry) (nested : Bool) :
    Entry.ofDocument? nested (.record fields) = some entry := by
  obtain ⟨hnetype, hnename⟩ : kind.ownKey ≠ "type" ∧ kind.ownKey ≠ "name" := by cases kind <;> decide
  have htype : valuesOf "type" (("type", .text kind.word) :: ("name", .text name) :: written) = [.text kind.word] := by
    rw [valuesOf_cons, if_pos rfl, valuesOf_cons, if_neg (by decide),
      valuesOf_of_forall_ne fun field hm => hkey field hm ▸ hnetype]
  have hname : valuesOf "name" (("type", .text kind.word) :: ("name", .text name) :: written) = [.text name] := by
    rw [valuesOf_cons, if_neg (by decide), valuesOf_cons, if_pos rfl,
      valuesOf_of_forall_ne fun field hm => hkey field hm ▸ hnename]
  have hvalues : valuesOf kind.ownKey (("type", .text kind.word) :: ("name", .text name) :: written) =
      written.map Prod.snd := by
    rw [valuesOf_cons, if_neg hnetype.symm, valuesOf_cons, if_neg hnename.symm, valuesOf_of_forall_eq hkey]
  refine Entry.ofDocument?_record_eq_some_iff.2 ⟨kind, .text kind.word, name, ?_, .inl rfl, ?_, ?_⟩
  · rw [h.valuesOf_eq (by simp) (by simp [htype]), htype]
  · rw [h.valuesOf_eq (by simp) (by simp [hname]), hname]
  · rw [h.valuesOf_eq (by simp) (by simpa [hvalues] using hone), hvalues, hown]

mutual
theorem Entry.RenderedBy.decodes : ∀ {entry : Entry} {d : Document}, entry.RenderedBy d → ∀ nested : Bool,
    Entry.ofDocument? nested d = some entry
  | .file name content, _, .file hown h, nested => by
    rcases hown with rfl | ⟨rfl, rfl⟩
    · exact Entry.ofDocument?_of_shows .file (by simp [EntryKind.ownKey]) (by simp) h rfl nested
    · exact Entry.ofDocument?_of_shows .file (by simp) (by simp) h rfl nested
  | .directory name children, _, .directory hitems hown h, nested => by
    have hchildren := hitems.decode true
    rcases hown with rfl | ⟨rfl, rfl⟩
    · refine Entry.ofDocument?_of_shows .directory (by simp [EntryKind.ownKey]) (by simp) h ?_ nested
      simp [Entry.withOwn?, Entry.childrenOf?, Entry.listOf?, hchildren]
    · exact Entry.ofDocument?_of_shows .directory (by simp) (by simp) h rfl nested

theorem Entry.AllRenderedBy.decode : ∀ {entries : List Entry} {items : List Document},
    Entry.AllRenderedBy entries items → ∀ nested : Bool, Entry.allOf? nested items = some entries
  | [], _, .nil, _ => rfl
  | _ :: _, _, .cons h hrest, nested => by
    have hfirst := h.decodes nested
    have hothers := hrest.decode nested
    simp [Entry.allOf?, hfirst, hothers]
end

theorem Manifest.RenderedBy.decodes {m : Manifest} {d : Document} (h : m.RenderedBy d) :
    Manifest.ofDocument? d = some m := by
  obtain ⟨hitems, hown, hfields⟩ := h
  have hentries := hitems.decode false
  rw [Manifest.ofDocument?_record_eq_some_iff]
  rcases hown with rfl | ⟨rfl, rfl⟩
  · exact .inr ⟨_, hfields.valuesOf_eq (by simp) (by simp [valuesOf]), hentries⟩
  · exact .inl ⟨hfields.valuesOf_eq (by simp) (by simp [valuesOf]), rfl⟩

/-! ## Faults -/

/-- A record that stands for an entry: in the root's list of children, or below that in the list of a directory. The
flag tells whether it is below the first level. -/
inductive Document.EntryAt (root : Document) : Bool → List (String × Document) → Prop
  | first {fields items entry} (hroot : root = .record fields) (hc : ("children", .list items) ∈ fields)
    (hm : .record entry ∈ items) : EntryAt root false entry
  | inside {nested fields value items entry} (h : EntryAt root nested fields) (ht : ("type", value) ∈ fields)
    (hd : EntryKind.directory.NamedBy nested value) (hc : ("children", .list items) ∈ fields)
    (hm : .record entry ∈ items) : EntryAt root true entry

/-- A record is of a kind that a type in it names. -/
def Document.IsOfKind (kind : EntryKind) (nested : Bool) (fields : List (String × Document)) : Prop :=
  ∃ value, ("type", value) ∈ fields ∧ kind.NamedBy nested value

/-- What keeps a record from being an entry: a missing type or name, a type that names no kind, a repeated key that
its kind reads, or such a key with a value of the wrong type. -/
inductive Document.Faulty (nested : Bool) (fields : List (String × Document)) : Prop
  | missing {key} (hk : key = "type" ∨ key = "name") (h : key ∉ fields.map Prod.fst)
  | unknownKind {value} (hv : ("type", value) ∈ fields) (h : ∀ kind : EntryKind, ¬kind.NamedBy nested value)
  | repeated {key} (hk : key = "type" ∨ key = "name" ∨ ∃ kind, IsOfKind kind nested fields ∧ key = kind.ownKey)
    (h : 2 ≤ (fields.map Prod.fst).count key)
  | badName {value} (hv : ("name", value) ∈ fields) (h : ∀ name, value ≠ .text name)
  | badContent {value} (hk : IsOfKind .file nested fields) (hv : ("content", value) ∈ fields)
    (h : ∀ content, value ≠ .text content)
  | badChildren {value} (hk : IsOfKind .directory nested fields) (hv : ("children", value) ∈ fields)
    (h : ∀ items, value ≠ .list items)

theorem Document.eq_of_valuesOf_eq_singleton {key : String} {value other : Document} {fields : List (String × Document)}
    (h : valuesOf key fields = [value]) (hm : (key, other) ∈ fields) : other = value := by
  have := mem_valuesOf.2 hm
  rwa [h, List.mem_singleton] at this

theorem EntryKind.eq_of_namedBy {kind other : EntryKind} {nested : Bool} {d : Document} (h : kind.NamedBy nested d)
    (h' : other.NamedBy nested d) : kind = other :=
  Option.some.inj ((ofDocument?_eq_some_iff.2 h).symm.trans (ofDocument?_eq_some_iff.2 h'))

theorem Entry.length_le_of_withOwn? {name : String} {kind : EntryKind} {values : List Document} {entry : Entry}
    (h : Entry.withOwn? name kind values = some entry) : values.length ≤ 1 := by
  rcases values with _ | ⟨value, _ | ⟨next, rest⟩⟩
  · simp
  · simp
  · cases kind <;> simp [withOwn?, contentOf?, childrenOf?] at h

/-- The value of a file's own field is a text. -/
theorem Entry.exists_text_of_withOwn? {name : String} {values : List Document} {entry : Entry}
    (h : Entry.withOwn? name .file values = some entry) {value : Document} (hm : value ∈ values) :
    ∃ content, value = .text content := by
  obtain ⟨content, hc, -⟩ := Option.map_eq_some_iff.1 h
  unfold contentOf? at hc
  split at hc
  · cases hm
  · exact ⟨_, List.mem_singleton.1 hm⟩
  · cases hc

/-- The value of a directory's own field is a list of entries. -/
theorem Entry.exists_list_of_withOwn? {name : String} {values : List Document} {entry : Entry}
    (h : Entry.withOwn? name .directory values = some entry) {value : Document} (hm : value ∈ values) :
    ∃ items, value = .list items ∧ ∃ children, Entry.allOf? true items = some children := by
  obtain ⟨children, hc, -⟩ := Option.map_eq_some_iff.1 h
  unfold childrenOf? at hc
  split at hc
  · cases hm
  · next only =>
    obtain rfl := List.mem_singleton.1 hm
    unfold listOf? at hc
    split at hc
    · exact ⟨_, rfl, children, hc⟩
    · cases hc
  · cases hc

/-- A faulty record is no entry. -/
theorem Document.Faulty.ofDocument?_eq_none {nested : Bool} {fields : List (String × Document)} (h : Faulty nested fields) :
    Entry.ofDocument? nested (.record fields) = none := by
  rw [Option.eq_none_iff_forall_ne_some]
  intro entry he
  obtain ⟨kind, value, name, htype, hkind, hname, hown⟩ := Entry.ofDocument?_record_eq_some_iff.1 he
  have hof : ∀ {other}, IsOfKind other nested fields → other = kind := by
    rintro other ⟨v, hm, hother⟩
    rw [eq_of_valuesOf_eq_singleton htype hm] at hother
    exact EntryKind.eq_of_namedBy hother hkind
  cases h with
  | @missing key hk h =>
    rcases hk with rfl | rfl
    · exact h (List.mem_map.2 ⟨_, mem_valuesOf.1 (htype ▸ List.mem_singleton_self value), rfl⟩)
    · exact h (List.mem_map.2 ⟨_, mem_valuesOf.1 (hname ▸ List.mem_singleton_self (Document.text name)), rfl⟩)
  | unknownKind hv h =>
    obtain rfl := eq_of_valuesOf_eq_singleton htype hv
    exact h kind hkind
  | @repeated key hk h =>
    have hone : (valuesOf key fields).length ≤ 1 := by
      rcases hk with rfl | rfl | ⟨other, hother, rfl⟩
      · simp [htype]
      · simp [hname]
      · rw [hof hother]
        exact Entry.length_le_of_withOwn? hown
    rw [length_valuesOf] at hone
    omega
  | badName hv h => exact h name (eq_of_valuesOf_eq_singleton hname hv)
  | badContent hk hv h =>
    obtain rfl := hof hk
    obtain ⟨content, rfl⟩ := Entry.exists_text_of_withOwn? hown (mem_valuesOf.2 hv)
    exact h content rfl
  | badChildren hk hv h =>
    obtain rfl := hof hk
    obtain ⟨items, rfl, -⟩ := Entry.exists_list_of_withOwn? hown (mem_valuesOf.2 hv)
    exact h items rfl

/-- Where a document is a manifest, each record in it that stands for an entry is one. -/
theorem Document.EntryAt.exists_entry {root : Document} {m : Manifest} (hroot : Manifest.ofDocument? root = some m)
    {nested : Bool} {fields : List (String × Document)} (h : root.EntryAt nested fields) :
    ∃ entry, Entry.ofDocument? nested (.record fields) = some entry := by
  induction h with
  | first he hc hm =>
    subst he
    rcases Manifest.ofDocument?_record_eq_some_iff.1 hroot with ⟨hnone, -⟩ | ⟨items, hone, hall⟩
    · have := mem_valuesOf.2 hc
      simp [hnone] at this
    · obtain rfl := Document.list.inj (eq_of_valuesOf_eq_singleton hone hc)
      exact Entry.allOf?_eq_some_of_mem hall hm
  | inside _ ht hd hc hm ih =>
    obtain ⟨outer, he⟩ := ih
    obtain ⟨kind, value, name, htype, hkind, -, hown⟩ := Entry.ofDocument?_record_eq_some_iff.1 he
    rw [eq_of_valuesOf_eq_singleton htype ht] at hd
    obtain rfl := EntryKind.eq_of_namedBy hkind hd
    obtain ⟨items, hitems, children, hall⟩ := Entry.exists_list_of_withOwn? hown (mem_valuesOf.2 hc)
    obtain rfl := Document.list.inj hitems
    exact Entry.allOf?_eq_some_of_mem hall hm

theorem Document.EntryAt.undecodable {root : Document} {nested : Bool} {fields : List (String × Document)}
    (h : root.EntryAt nested fields) (hf : Faulty nested fields) : Manifest.ofDocument? root = none := by
  rw [Option.eq_none_iff_forall_ne_some]
  intro m hm
  obtain ⟨entry, he⟩ := h.exists_entry hm
  rw [hf.ofDocument?_eq_none] at he
  cases he

/-! ## Texts -/

theorem Manifest.ofJson_of_decoded {text : String} {d : Document} {m : Manifest} (ht : Json.read? text = some d)
    (hr : d.entriesReadable = true) (h : Manifest.ofDocument? d = some m) : Manifest.ofJson text = .ok m := by
  simp [ofJson, ht, Option.filter, hr, h]

theorem Manifest.ofJson_of_undecodable {text : String} {d : Document} (ht : Json.read? text = some d)
    (h : Manifest.ofDocument? d = none) : Manifest.ofJson text = .error .malformedJson := by
  cases hr : d.entriesReadable <;> simp [ofJson, ht, Option.filter, hr, h]

/-! ## Main theorem -/

/-- A document that renders a manifest decodes to it, whatever the order of the fields in its records is, whichever
fields stand among them that nobody reads, and whether an empty text or list of children is written or left out. A
document decodes to nothing if a record that stands for an entry anywhere in it lacks a type or a name, has a type that
is neither a kind's word nor, below the first level, its number, repeats a key that its kind reads, or has a value of
the wrong type under one. The same goes for the texts that are read as these documents. -/
theorem Manifest.decoding_ignores_presentation :
    (∀ (m : Manifest) (d : Document), m.RenderedBy d →
      Manifest.ofDocument? d = some m ∧
        ∀ text, Json.read? text = some d → d.entriesReadable = true → Manifest.ofJson text = .ok m) ∧
    ∀ (root : Document) (nested : Bool) (fields : List (String × Document)),
      root.EntryAt nested fields → Document.Faulty nested fields →
      Manifest.ofDocument? root = none ∧
        ∀ text, Json.read? text = some root → Manifest.ofJson text = .error .malformedJson := by
  constructor
  · intro m d h
    exact ⟨h.decodes, fun text ht hr => Manifest.ofJson_of_decoded ht hr h.decodes⟩
  · intro root nested fields h hf
    have hnone := h.undecodable hf
    exact ⟨hnone, fun text ht => Manifest.ofJson_of_undecodable ht hnone⟩

/-- A tag behind the fields that it governs, fields of the other kind, and a repeated field that nobody reads; and a file
without a text, two levels deep. -/
theorem Manifest.decoding_ignores_presentation_tag_last :
    let m : Manifest := ⟨[.directory "a" [.file "x" "hi"], .file "b" ""]⟩
    let text := "\x7b\"children\": [\x7b\"content\": 3, \"children\": [\x7b\"content\": \"hi\", \"name\": \"x\", " ++
      "\"type\": \"file\"\x7d], \"name\": \"a\", \"type\": \"dir\"\x7d, \x7b\"children\": null, " ++
      "\"children\": true, \"name\": \"b\", \"type\": \"file\"\x7d]\x7d"
    let fields := [("type", Document.text "file"), ("name", .text "x"), ("content", .null)]
    let outer := [("type", Document.text "dir"), ("name", .text "a"), ("children", .list [.record fields])]
    let root := Document.record [("children", .list [.record outer])]
    (∃ d, m.RenderedBy d ∧ Json.read? text = some d ∧ Manifest.ofJson text = .ok m) ∧
      root.EntryAt true fields ∧ Document.Faulty true fields ∧ Manifest.ofDocument? root = none := by
  intro m text fields outer root
  obtain ⟨haccept, hreject⟩ := decoding_ignores_presentation
  constructor
  · let x := Document.record [("content", .text "hi"), ("name", .text "x"), ("type", .text "file")]
    let a := Document.record [("content", .natural 3), ("children", .list [x]), ("name", .text "a"), ("type", .text "dir")]
    let b := Document.record [("children", .null), ("children", .bool true), ("name", .text "b"), ("type", .text "file")]
    have hx : Entry.RenderedBy (.file "x" "hi") x := .file (.inl rfl) ⟨[], (List.reverse_perm _).symm, by simp⟩
    have ha : Entry.RenderedBy (.directory "a" [.file "x" "hi"]) a :=
      .directory (.cons hx .nil) (.inl rfl) ⟨[("content", .natural 3)], (List.reverse_perm _).symm, by simp⟩
    have hb : Entry.RenderedBy (.file "b" "") b :=
      .file (.inr ⟨rfl, rfl⟩) ⟨[("children", .bool true), ("children", .null)], (List.reverse_perm _).symm, by simp⟩
    have hm : m.RenderedBy (.record [("children", .list [a, b])]) :=
      .root (.cons ha (.cons hb .nil)) (.inl rfl) ⟨[], .refl _, by simp⟩
    have ht : Json.read? text = some (.record [("children", .list [a, b])]) :=
      Document.eq_some_of_same (by decide +kernel)
    obtain ⟨-, htext⟩ := haccept m _ hm
    exact ⟨_, hm, ht, htext text ht (by decide +kernel)⟩
  · have hfirst : root.EntryAt false outer := .first rfl List.mem_cons_self List.mem_cons_self
    have hc : ("children", Document.list [.record fields]) ∈ outer := by simp [outer]
    have hplace : root.EntryAt true fields := .inside hfirst List.mem_cons_self (.inl rfl) hc List.mem_cons_self
    have hv : ("content", Document.null) ∈ fields := by simp [fields]
    have hf : Document.Faulty true fields := .badContent ⟨_, List.mem_cons_self, .inl rfl⟩ hv (by simp)
    exact ⟨hplace, hf, (hreject root true fields hplace hf).1⟩

/-- Below the first level a type may be a number: this entry has a type that is neither of the two words, and the
document decodes all the same. -/
theorem Manifest.numbered_kind_decodes :
    let text := "\x7b\"children\": [\x7b\"type\": \"dir\", \"name\": \"a\", \"children\": " ++
      "[\x7b\"type\": 1, \"name\": \"x\"\x7d]\x7d]\x7d"
    let fields := [("type", Document.natural 1), ("name", .text "x")]
    let outer := [("type", Document.text "dir"), ("name", .text "a"), ("children", .list [.record fields])]
    let root := Document.record [("children", .list [.record outer])]
    root.EntryAt true fields ∧
      (∀ value, ("type", value) ∈ fields → value ≠ .text "dir" ∧ value ≠ .text "file") ∧
      Json.read? text = some root ∧ Manifest.ofJson text = .ok ⟨[.directory "a" [.file "x" ""]]⟩ := by
  intro text fields outer root
  have hfirst : root.EntryAt false outer := .first rfl List.mem_cons_self List.mem_cons_self
  have hc : ("children", Document.list [.record fields]) ∈ outer := by simp [outer]
  have hplace : root.EntryAt true fields := .inside hfirst List.mem_cons_self (.inl rfl) hc List.mem_cons_self
  have ht : Json.read? text = some root := Document.eq_some_of_same (by decide +kernel)
  have hm : Manifest.ofDocument? root = some ⟨[.directory "a" [.file "x" ""]]⟩ := rfl
  exact ⟨hplace, by simp [fields], ht, ofJson_of_decoded ht (by decide +kernel) hm⟩

end TreeShell
