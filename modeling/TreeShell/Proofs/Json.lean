import TreeShell.Json.Reader
import TreeShell.Json.Writer
/-!
# What is written as JSON reads back

A document of texts, truth values, lists and records is written as tokens with blanks between them (`Lexes`),
and these tokens make the document again wherever a value is expected (`Reads`). So its text reads back as the
document, with blanks behind it too (`read?_pretty`). No token of such a document runs into what follows it, as
the digits of a number would.
-/

namespace TreeShell.Json

open Number

/-- A document without numbers and dates that has a value throughout. -/
inductive Verbal : Document → Prop
  | null : Verbal .null
  | bool (value : Bool) : Verbal (.bool value)
  | text (value : String) : Verbal (.text value)
  | list {items : List Document} (h : ∀ item ∈ items, Verbal item) : Verbal (.list items)
  | record {fields : List (String × Document)} (h : ∀ field ∈ fields, Verbal field.2) : Verbal (.record fields)

namespace Token

/-! ## Texts -/

theorem controlCode_eq : ∀ n < 0x20, controlCode (Char.ofNat n) =
    ['\\', 'u', '0', '0', Nat.digitChar (n / 16), Nat.digitChar (n % 16)] := by
  decide

theorem digits_of_control : ∀ n < 0x20,
    ['0', '0', Nat.digitChar (n / 16), Nat.digitChar (n % 16)].all isHexDigit = true ∧
      ofDigits 16 ['0', '0', Nat.digitChar (n / 16), Nat.digitChar (n % 16)] = n := by
  decide

theorem scanText_controlCode {c : Char} (hc : c.toNat < 0x20) (cs : List Char) :
    scanText (controlCode c ++ cs) = (scanText cs).map fun (pieces, rest) => (.char c :: pieces, rest) := by
  obtain ⟨hdigits, hvalue⟩ := digits_of_control c.toNat hc
  have hcode := controlCode_eq c.toNat hc
  rw [Char.ofNat_toNat] at hcode
  have hunit : Piece.ofUnit c.toNat = .char c := by
    rw [Piece.ofUnit, if_neg (by omega), if_neg (by omega), Char.ofNat_toNat]
  simp only [hcode, List.cons_append, List.nil_append, scanText, hdigits, if_true, hvalue, hunit]

theorem scanText_plain {c : Char} (hquote : c ≠ '"') (hslash : c ≠ '\\') (hc : ¬c.toNat < 0x20) (cs : List Char) :
    scanText (c :: cs) = (scanText cs).map fun (pieces, rest) => (.char c :: pieces, rest) := by
  rw [scanText, if_neg (by simp [hc, hslash])]
  · exact hquote
  · intro _ _ _ _ _ h
    exact absurd h hslash
  · intro _ _ h
    exact absurd h hslash

/-- A character is read as it was escaped. -/
theorem scanText_escapeChar (c : Char) (cs : List Char) :
    scanText (escapeChar c ++ cs) = (scanText cs).map fun (pieces, rest) => (.char c :: pieces, rest) := by
  unfold escapeChar
  split
  iterate 7 simp [scanText]
  next hquote hslash _ _ _ _ _ =>
    split
    · next hc => exact scanText_controlCode hc cs
    · next hc => exact scanText_plain hquote hslash hc cs

theorem scanText_escaped (cs rest : List Char) :
    scanText (cs.flatMap escapeChar ++ '"' :: rest) = some (cs.map .char, rest) := by
  induction cs with
  | nil => simp [scanText]
  | cons c cs ih => rw [List.flatMap_cons, List.append_assoc, scanText_escapeChar, ih]; rfl

theorem charsOf_map_char (cs : List Char) : charsOf (cs.map .char) = some cs := by
  induction cs with
  | nil => rfl
  | cons c cs ih => rw [List.map_cons, charsOf, ih]; rfl

/-! ## Tokens -/

/-- The tokens with blanks between them, whatever stands behind. -/
structure Lexes (cs : List Char) (tokens : List Token) : Prop where
  length_le : tokens.length ≤ cs.length
  scan : ∀ fuel rest, scanUpTo (fuel + tokens.length) (cs ++ rest) = (scanUpTo fuel rest).map (tokens ++ ·)

theorem lexes_blanks {cs : List Char} (h : ∀ c ∈ cs, isSpace c = true) : Lexes cs [] where
  length_le := Nat.zero_le _
  scan fuel rest := by
    cases fuel with
    | zero => simp [scanUpTo]
    | succ fuel => simp [scanUpTo, List.dropWhile_append_of_pos h]

theorem lexes_indent (level : Nat) : Lexes (indent level) [] := by
  apply lexes_blanks
  intro c hc
  have hc : c = '\n' ∨ c = ' ' := by
    have := List.mem_cons.1 hc
    exact this.imp_right List.eq_of_mem_replicate
  rcases hc with rfl | rfl <;> rfl

theorem Lexes.append {cs ds : List Char} {ts us : List Token} (h : Lexes cs ts) (k : Lexes ds us) :
    Lexes (cs ++ ds) (ts ++ us) where
  length_le := by simpa using Nat.add_le_add h.length_le k.length_le
  scan fuel rest := by
    have hf : fuel + (ts ++ us).length = fuel + us.length + ts.length := by
      rw [List.length_append]
      omega
    rw [hf, List.append_assoc, h.scan, k.scan]
    cases scanUpTo fuel rest <;> simp

theorem lexes_of_scanOne {c : Char} {cs : List Char} {token : Token} (hc : isSpace c = false)
    (h : ∀ rest, scanOne (c :: (cs ++ rest)) = some (token, rest)) : Lexes (c :: cs) [token] where
  length_le := by simp
  scan fuel rest := by
    have hd : (c :: (cs ++ rest)).dropWhile isSpace = c :: (cs ++ rest) := by simp [hc]
    simp only [List.length_singleton, List.cons_append, scanUpTo, hd, h rest, List.nil_append]

theorem lexes_text (s : String) : Lexes (textChars s) [.text (some s)] := by
  rw [textChars, List.cons_append]
  refine lexes_of_scanOne rfl ?_
  intro rest
  have ht := scanText_escaped s.toList rest
  simp only [List.append_assoc, List.singleton_append, scanOne, ht, Option.map_some, charsOf_map_char,
    String.ofList_toList]

end Token

/-! ## Values -/

open Token Reader

/-- The reader after some tokens. -/
def Reader.after (r : Reader) (tokens : List Token) : Option Reader := tokens.foldlM step r

@[simp] theorem Reader.after_nil (r : Reader) : r.after [] = some r := rfl

@[simp] theorem Reader.after_cons (r : Reader) (token : Token) (rest : List Token) :
    r.after (token :: rest) = (step r token).bind fun next => next.after rest := by
  simp [after]

theorem Reader.after_append (r : Reader) (ts us : List Token) :
    r.after (ts ++ us) = (r.after ts).bind fun next => next.after us := by
  simp [after, List.foldlM_append]

/-- Tokens that are read as the document where a value is expected. -/
structure Reads (tokens : List Token) (d : Document) : Prop where
  head : ∃ first rest, tokens = first :: rest ∧ first ≠ .closeList
  after : ∀ frames, Reader.after ⟨frames, .value⟩ tokens = put d frames

/-- At a level the document is written as tokens that are read as it. -/
def WritesAt (level : Nat) (d : Document) : Prop :=
  ∃ tokens, Lexes (prettyChars level d) tokens ∧ Reads tokens d

theorem reads_leaf {token : Token} {d : Document} (hne : token ≠ .closeList)
    (h : ∀ frames, step ⟨frames, .value⟩ token = put d frames) : Reads [token] d where
  head := ⟨token, [], rfl, hne⟩
  after frames := by
    rw [after_cons, h]
    cases put d frames <;> rfl

theorem lexes_enclosed {level : Nat} {opening closing : Char} {cs : List Char} {first last : Token}
    {tokens : List Token} (ho : Lexes [opening] [first]) (hc : Lexes [closing] [last]) (h : Lexes cs tokens) :
    Lexes (opening :: cs ++ indent level ++ [closing]) (first :: (tokens ++ [last])) := by
  simpa using (ho.append h).append ((lexes_indent level).append hc)

/-! ### Lists -/

section Lists

variable {level : Nat} {items : List Document}

theorem exists_items (hne : items ≠ []) (h : ∀ item ∈ items, WritesAt level item) :
    ∃ tokens, Lexes (prettyItems level items) tokens ∧
      (∃ first rest, tokens = first :: rest ∧ first ≠ .closeList) ∧
      ∀ before frames, Reader.after ⟨.list before :: frames, .value⟩ tokens =
        some ⟨.list (items.reverse ++ before) :: frames, .separator⟩ := by
  induction items with
  | nil => exact absurd rfl hne
  | cons item rest ih =>
    obtain ⟨ts, hlex, hread⟩ := h item List.mem_cons_self
    have hitem : Lexes (indent level ++ prettyChars level item) ts := (lexes_indent level).append hlex
    cases rest with
    | nil =>
      refine ⟨ts, hitem, hread.head, ?_⟩
      intro before frames
      rw [hread.after]
      rfl
    | cons next rest =>
      obtain ⟨us, hlexes, -, hafter⟩ := ih (by simp) fun item hi => h item (List.mem_cons_of_mem _ hi)
      have hcomma : Lexes [','] [.comma] := lexes_of_scanOne rfl fun _ => rfl
      obtain ⟨first, more, rfl, hfirst⟩ := hread.head
      refine ⟨_, hitem.append (hcomma.append hlexes), ⟨first, _, rfl, hfirst⟩, ?_⟩
      intro before frames
      have hstep : step ⟨.list (item :: before) :: frames, .separator⟩ .comma =
          some ⟨.list (item :: before) :: frames, .value⟩ := rfl
      rw [after_append, hread.after, put, Option.bind_some, List.singleton_append, after_cons, hstep,
        Option.bind_some, hafter]
      simp

theorem step_firstItem {token : Token} (h : token ≠ .closeList) (frames : List Frame) :
    step ⟨frames, .firstItem⟩ token = step ⟨frames, .value⟩ token := by
  cases token with
  | closeList => exact absurd rfl h
  | _ => rfl

theorem writesAt_list (h : ∀ item ∈ items, WritesAt (level + 1) item) : WritesAt level (.list items) := by
  have hopen : Lexes ['['] [.openList] := lexes_of_scanOne rfl fun _ => rfl
  have hclose : Lexes [']'] [.closeList] := lexes_of_scanOne rfl fun _ => rfl
  have hstart : ∀ frames, step ⟨frames, .value⟩ .openList = some ⟨.list [] :: frames, .firstItem⟩ := fun _ => rfl
  cases items with
  | nil =>
    refine ⟨_, hopen.append hclose, ⟨_, _, rfl, by simp⟩, ?_⟩
    intro frames
    simp [step, onValue, Reader.closeList]
  | cons item rest =>
    obtain ⟨ts, hlexes, ⟨first, more, rfl, hfirst⟩, hafter⟩ := exists_items (by simp) h
    refine ⟨_, lexes_enclosed hopen hclose hlexes, ⟨_, _, rfl, by simp⟩, ?_⟩
    intro frames
    have hitems := hafter [] frames
    rw [after_cons, ← step_firstItem hfirst, ← after_cons] at hitems
    rw [after_cons, hstart, Option.bind_some, after_append, hitems]
    simp [step, onSeparator, Reader.closeList]

end Lists

/-! ### Records -/

section Records

variable {level : Nat} {key : String} {value : Document} {fields : List (String × Document)} {tokens : List Token}

theorem lexes_field {cs : List Char} (h : Lexes cs tokens) :
    Lexes (indent level ++ textChars key ++ ':' :: ' ' :: cs) (.text (some key) :: .colon :: tokens) := by
  have hcolon : Lexes [':'] [.colon] := lexes_of_scanOne rfl fun _ => rfl
  have hspace : Lexes [' '] [] := lexes_blanks (by simp [isSpace])
  have := ((lexes_indent level).append (lexes_text key)).append (hcolon.append (hspace.append h))
  simpa only [List.nil_append, List.singleton_append] using this

theorem after_field (h : Reads tokens value) (before : List (Option String × Document)) (frames : List Frame) :
    Reader.after ⟨.record before :: frames, .key⟩ (.text (some key) :: .colon :: tokens) =
      some ⟨.record ((some key, value) :: before) :: frames, .separator⟩ := by
  simp only [after_cons, step, onKey, Option.bind_some, h.after, put]

theorem exists_fields (hne : fields ≠ []) (h : ∀ field ∈ fields, WritesAt level field.2) :
    ∃ key tokens, Lexes (prettyFields level fields) (.text key :: tokens) ∧
      ∀ before frames, Reader.after ⟨.record before :: frames, .key⟩ (.text key :: tokens) =
        some ⟨.record ((fields.map fun field => (some field.1, field.2)).reverse ++ before) :: frames, .separator⟩ := by
  induction fields with
  | nil => exact absurd rfl hne
  | cons field rest ih =>
    obtain ⟨key, value⟩ := field
    obtain ⟨ts, hlex, hread⟩ := h (key, value) List.mem_cons_self
    have hfield : Lexes (indent level ++ textChars key ++ ':' :: ' ' :: prettyChars level value) _ := lexes_field hlex
    cases rest with
    | nil => exact ⟨some key, _, hfield, after_field hread⟩
    | cons next rest =>
      obtain ⟨key', us, hlexes, hafter⟩ := ih (by simp) fun field hf => h field (List.mem_cons_of_mem _ hf)
      have hcomma : Lexes [','] [.comma] := lexes_of_scanOne rfl fun _ => rfl
      refine ⟨some key, .colon :: ts ++ .comma :: .text key' :: us, ?_, ?_⟩
      · rw [prettyFields]
        · simpa using hfield.append (hcomma.append hlexes)
        · simp
      · intro before frames
        have hstep : step ⟨.record ((some key, value) :: before) :: frames, .separator⟩ .comma =
            some ⟨.record ((some key, value) :: before) :: frames, .key⟩ := rfl
        rw [← List.cons_append, after_append, after_field hread, Option.bind_some, after_cons, hstep,
          Option.bind_some, hafter]
        simp

theorem recordOf_some (fields : List (String × Document)) :
    recordOf (fields.map fun field => (some field.1, field.2)) = .record fields := by
  have h : (fields.map fun field => (some field.1, field.2)).mapM
      (fun (field : Option String × Document) => field.1.map fun key => (key, field.2)) = some fields := by
    induction fields with
    | nil => rfl
    | cons field rest ih => simp [ih]
  rw [recordOf, h]

theorem writesAt_record (h : ∀ field ∈ fields, WritesAt (level + 1) field.2) : WritesAt level (.record fields) := by
  have hopen : Lexes ['\x7b'] [.openRecord] := lexes_of_scanOne rfl fun _ => rfl
  have hclose : Lexes ['\x7d'] [.closeRecord] := lexes_of_scanOne rfl fun _ => rfl
  have hstart : ∀ frames, step ⟨frames, .value⟩ .openRecord = some ⟨.record [] :: frames, .firstKey⟩ := fun _ => rfl
  cases fields with
  | nil =>
    refine ⟨_, hopen.append hclose, ⟨_, _, rfl, by simp⟩, ?_⟩
    intro frames
    simp [step, onValue, Reader.closeRecord, recordOf]
  | cons field rest =>
    obtain ⟨key, ts, hlexes, hafter⟩ := exists_fields (by simp) h
    refine ⟨_, lexes_enclosed hopen hclose hlexes, ⟨_, _, rfl, by simp⟩, ?_⟩
    intro frames
    have hkey : step ⟨.record [] :: frames, .firstKey⟩ (.text key) =
        step ⟨.record [] :: frames, .key⟩ (.text key) := rfl
    have hfields := hafter [] frames
    rw [after_cons, ← hkey, ← after_cons] at hfields
    rw [after_cons, hstart, Option.bind_some, after_append, hfields]
    simp [step, onSeparator, Reader.closeRecord, ← recordOf_some]

end Records

/-! ## Documents -/

theorem writesAt_of_verbal {d : Document} (h : Verbal d) (level : Nat) : WritesAt level d := by
  induction h generalizing level with
  | null => exact ⟨_, lexes_of_scanOne rfl fun _ => rfl, reads_leaf (by simp) fun _ => rfl⟩
  | bool value =>
    cases value with
    | true => exact ⟨_, lexes_of_scanOne rfl fun _ => rfl, reads_leaf (by simp) fun _ => rfl⟩
    | false => exact ⟨_, lexes_of_scanOne rfl fun _ => rfl, reads_leaf (by simp) fun _ => rfl⟩
  | text value => exact ⟨_, lexes_text value, reads_leaf (by simp) fun _ => rfl⟩
  | list _ ih => exact writesAt_list fun item hi => ih item hi (level + 1)
  | record _ ih => exact writesAt_record fun field hf => ih field hf (level + 1)

/-- A document reads back as it was written. -/
theorem read?_pretty {d : Document} (h : Verbal d) {blanks : String} (hb : ∀ c ∈ blanks.toList, isSpace c = true) :
    read? (pretty d ++ blanks) = some d := by
  obtain ⟨tokens, hlex, hread⟩ := writesAt_of_verbal h 0
  have hall := hlex.append (lexes_blanks hb)
  rw [List.append_nil] at hall
  have hscan : scan (pretty d ++ blanks) = some tokens := by
    have hl : (pretty d ++ blanks).toList = prettyChars 0 d ++ blanks.toList := by simp [pretty]
    -- A token has a character, so that the length leaves one step for the end.
    obtain ⟨spare, hspare⟩ := Nat.exists_eq_add_of_le' hall.length_le
    have hs := hall.scan (spare + 1) []
    rw [List.append_nil, Nat.add_right_comm] at hs
    rw [scan, hl, hspare, hs]
    simp [scanUpTo]
  have hafter := hread.after []
  rw [after, ← start] at hafter
  rw [read?, hscan, Option.bind_some, ofTokens?, hafter]
  rfl

end TreeShell.Json
