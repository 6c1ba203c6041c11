import Mathlib.Data.List.Forall2
import VisualNovel.Proofs.Escapes
import VisualNovel.Proofs.Numerals

/-! Documents read back from their text. A writer's text is one of many that a reader accepts, so
what is followed here is the reader, step by step, over what was written: a document is read with
whatever delimits it still ahead (`ReadsOn`), the items of a list up to the end of the list and
the fields of an object up to the end of the object. `readsOn` puts these together along the
document, and `read_write` is what comes of it for a whole text. The reader allows only so much
nesting; `read_nest` shows that it refuses more. -/
namespace VisualNovel.Json

open Text

/-! ## What becomes of a document -/

mutual

/-- Whether a document can be read once it has been written: its lists and objects are not nested
too deep for the room that there is, and no integer has too many digits. -/
def isReadable (room : Nat) : Json → Bool
  | int value => value.natAbs < Nat.pow 10 digitLimit
  | arr items => 0 < room && areReadable (room - 1) items
  | obj fields => 0 < room && fieldsAreReadable (room - 1) fields
  | _ => true

def areReadable (room : Nat) : List Json → Bool
  | [] => true
  | item :: rest => item.isReadable room && areReadable room rest

def fieldsAreReadable (room : Nat) : List (String × Json) → Bool
  | [] => true
  | (_, value) :: rest => value.isReadable room && fieldsAreReadable room rest

end

/-- Gives each field its value, one after the other. -/
def assignAll (fields done : List (String × Json)) : List (String × Json) :=
  fields.foldl (fun done field => assign field.1 field.2 done) done

mutual

/-- What becomes of a document when its text is read. -/
inductive Reread : Json → Json → Prop
  | null : Reread null null
  | bool (value : Bool) : Reread (bool value) (bool value)
  | int (value : Int) : Reread (int value) (int value)
  | float (value read : Binary64) : Reread (float value) (float read)
  | str (value : String) : Reread (str value) (str (joined value))
  | arr {items read : List Json} (each : List.Forall₂ Reread items read) :
    Reread (arr items) (arr read)
  | obj {fields read : List (String × Json)} (each : FieldsReread fields read) :
    Reread (obj fields) (obj (assignAll read []))

inductive FieldsReread : List (String × Json) → List (String × Json) → Prop
  | nil : FieldsReread [] []
  | cons {value got : Json} {rest read : List (String × Json)} (key : String)
    (first : Reread value got) (others : FieldsReread rest read) :
    FieldsReread ((key, value) :: rest) ((joined key, got) :: read)

end

variable {fuel room : Nat} {rest start : List Char} {c : Char}

theorem skipSpace_cons (solid : isSpace c = false) : skipSpace (c :: rest) = c :: rest := by
  rw [skipSpace, List.dropWhile_cons_of_neg (by simp [solid])]

theorem skipSpace_blank : skipSpace (' ' :: rest) = skipSpace rest := rfl

/-! ## Scalars -/

/-- Whether a character can be the first one of a scalar that is no string. -/
def opensScalar (c : Char) : Bool :=
  !isSpace c && !(['"', '[', ']', '{', '}', '\ufeff'].contains c)

theorem opensScalar_of_isDigit (digit : c.isDigit = true) : opensScalar c = true := by
  have digits : ∀ n < 58, 48 ≤ n → opensScalar (Char.ofNat n) = true := by decide
  simp only [Char.isDigit, Bool.and_eq_true, decide_eq_true_eq, ge_iff_le] at digit
  rw [← Char.ofNat_toNat c]
  exact digits c.toNat (Nat.lt_succ_of_le digit.2) digit.1

theorem opensScalar_signed {negative : Bool} {text : List Char}
    (leads : ∃ c others, text = c :: others ∧ c.isDigit = true) :
    ∃ c others, (if negative then ['-'] else []) ++ text = c :: others ∧ opensScalar c = true := by
  obtain ⟨c, others, rfl, digit⟩ := leads
  cases negative
  · exact ⟨c, others, rfl, opensScalar_of_isDigit digit⟩
  · exact ⟨'-', c :: others, rfl, by decide⟩

def isScalar : Json → Bool
  | null | bool _ | int _ | float _ => true
  | _ => false

theorem writeChars_scalar {document : Json} (scalar : document.isScalar = true) :
    ∃ c text, writeChars document = c :: text ∧ opensScalar c = true := by
  cases document with
  | null => exact ⟨'n', _, String.toList_ofList, by decide⟩
  | bool value =>
    cases value
    · exact ⟨'f', _, String.toList_ofList, by decide⟩
    · exact ⟨'t', _, String.toList_ofList, by decide⟩
  | int value =>
    rw [writeChars, toList_toString_int]
    have leads := (isWholeNumber_toDigits value.natAbs).leads []
    rw [List.append_nil] at leads
    exact opensScalar_signed leads
  | float value =>
    rw [writeChars]
    cases value with
    | nan => exact ⟨'N', _, String.toList_ofList, by decide⟩
    | infinite negative =>
      cases negative
      · exact ⟨'I', _, String.toList_ofList, by decide⟩
      · exact ⟨'-', _, String.toList_ofList, by decide⟩
    | finite negative units fits =>
      obtain ⟨magnitude, isFloat, written⟩ := Binary64.floatText_finite negative fits
      have leads := isFloat.leads []
      rw [List.append_nil] at leads
      rw [written]
      exact opensScalar_signed leads
  | str | arr | obj => cases scalar

theorem readScalar_writeChars {document : Json} (scalar : document.isScalar = true)
    (readable : document.isReadable room = true) (delimited : Delimited rest) :
    ∃ read, readScalar (writeChars document ++ rest) = .ok (read, rest) ∧ Reread document read := by
  cases document with
  | null =>
    refine ⟨_, ?_, .null⟩
    rw [writeChars, String.toList_ofList]
    rfl
  | bool value =>
    refine ⟨_, ?_, .bool value⟩
    cases value
    · rw [writeChars, if_neg (by decide), String.toList_ofList]
      rfl
    · rw [writeChars, if_pos rfl, String.toList_ofList]
      rfl
  | int value =>
    refine ⟨_, ?_, .int value⟩
    rw [writeChars]
    rw [isReadable, decide_eq_true_eq] at readable
    exact readScalar_int readable delimited
  | float value =>
    obtain ⟨read, came⟩ := readScalar_float value delimited
    exact ⟨_, came, .float value read⟩
  | str | arr | obj => cases scalar

theorem readValue_scalar (opens : opensScalar c = true) :
    readValue (fuel + 1) room (c :: rest) = readScalar (c :: rest) := by
  rw [readValue]
  all_goals
    rintro _ same
    cases same
    cases opens

/-! ## Strings -/

theorem readString_quote (text : String) (rest : List Char) :
    ∃ after, quote text ++ rest = '"' :: after ∧
      readString ('"' :: after) [] after = .ok (joined text, rest) := by
  refine ⟨text.toList.flatMap escapeChar ++ '"' :: rest, ?_, ?_⟩
  · rw [quote, List.append_assoc]
    rfl
  · rw [readString_flatMap]
    rfl

theorem readKey_quote (key : String) (solid : isSpace c = false) :
    readKey (quote key ++ ':' :: ' ' :: c :: rest) = .ok (joined key, c :: rest) := by
  obtain ⟨after, written, came⟩ := readString_quote key (':' :: ' ' :: c :: rest)
  rw [written, readKey, came]
  have colon : skipSpace (':' :: ' ' :: c :: rest) = ':' :: ' ' :: c :: rest := rfl
  simp only [Except.bind, bind, colon, skipSpace_blank, skipSpace_cons solid]
  rfl

/-! ## Steps of the reader -/

variable {text : List Char} {item : Json} {done : List Json}

theorem readValue_list (roomy : 0 < room) (solid : isSpace c = false) (more : c ≠ ']') :
    readValue (fuel + 1) room ('[' :: c :: text) = readItems fuel (room - 1) [] (c :: text) := by
  rw [readValue, if_neg (Nat.ne_of_gt roomy), skipSpace_cons solid]
  split
  · rename_i same
    cases same
    exact absurd rfl more
  · rfl

theorem readItems_last (came : readValue fuel room text = .ok (item, ']' :: rest)) :
    readItems (fuel + 1) room done text = .ok (arr (item :: done).reverse, rest) := by
  rw [readItems, came]
  rfl

theorem readItems_next (came : readValue fuel room text = .ok (item, ',' :: ' ' :: c :: rest))
    (solid : isSpace c = false) :
    readItems (fuel + 1) room done text = readItems fuel room (item :: done) (c :: rest) := by
  rw [readItems, came]
  have comma : skipSpace (',' :: ' ' :: c :: rest) = ',' :: ' ' :: c :: rest := rfl
  simp only [Except.bind, bind, comma, skipSpace_blank, skipSpace_cons solid]

variable {key : String} {value : Json} {fields : List (String × Json)}

theorem readValue_object (roomy : 0 < room) (solid : isSpace c = false) (more : c ≠ '}') :
    readValue (fuel + 1) room ('{' :: c :: text) = readFields fuel (room - 1) [] (c :: text) := by
  rw [readValue, if_neg (Nat.ne_of_gt roomy), skipSpace_cons solid]
  split
  · rename_i same
    cases same
    exact absurd rfl more
  · rfl

theorem readFields_last (named : readKey start = .ok (key, text))
    (came : readValue fuel room text = .ok (value, '}' :: rest)) :
    readFields (fuel + 1) room fields start = .ok (obj (assign key value fields), rest) := by
  rw [readFields, named]
  simp only [Except.bind, bind, came]
  rfl

theorem readFields_next (named : readKey start = .ok (key, text))
    (came : readValue fuel room text = .ok (value, ',' :: ' ' :: c :: rest))
    (solid : isSpace c = false) :
    readFields (fuel + 1) room fields start =
      readFields fuel room (assign key value fields) (c :: rest) := by
  rw [readFields, named]
  have comma : skipSpace (',' :: ' ' :: c :: rest) = ',' :: ' ' :: c :: rest := rfl
  simp only [Except.bind, bind, came, comma, skipSpace_blank, skipSpace_cons solid]

/-! ## Documents -/

/-- A character with which a document or a field can begin. -/
def Opens (text : List Char) : Prop :=
  ∃ c others, text = c :: others ∧ isSpace c = false ∧ c ≠ ']' ∧ c ≠ '}' ∧ c ≠ '\ufeff'

theorem opens_writeChars (document : Json) : Opens (writeChars document) := by
  by_cases scalar : document.isScalar = true
  · obtain ⟨c, others, written, opens⟩ := writeChars_scalar scalar
    refine ⟨c, others, written, ?_⟩
    simp only [opensScalar, Bool.and_eq_true, Bool.not_eq_true', List.contains_eq_mem,
      decide_eq_false_iff_not, List.mem_cons, not_or] at opens
    exact ⟨opens.1, opens.2.2.2.1, opens.2.2.2.2.2.1, opens.2.2.2.2.2.2.1⟩
  · cases document with
    | str => exact ⟨'"', _, rfl, by decide, by decide, by decide, by decide⟩
    | arr => exact ⟨'[', _, rfl, by decide, by decide, by decide, by decide⟩
    | obj => exact ⟨'{', _, rfl, by decide, by decide, by decide, by decide⟩
    | null | bool | int | float => exact absurd rfl scalar

theorem Opens.append (opens : Opens text) (others : List Char) : Opens (text ++ others) := by
  obtain ⟨c, rest, rfl, solid⟩ := opens
  exact ⟨c, rest ++ others, rfl, solid⟩

theorem opens_writeItems (item : Json) (items : List Json) :
    Opens (writeItems (item :: items)) := by
  cases items with
  | nil => exact opens_writeChars item
  | cons next items => exact (opens_writeChars item).append _

theorem opens_writeFields (field : String × Json) (fields : List (String × Json)) :
    Opens (writeFields (field :: fields)) := by
  obtain ⟨key, value⟩ := field
  cases fields <;> exact ⟨'"', _, rfl, by decide, by decide, by decide, by decide⟩

theorem delimited_cons (delimits : c = ',' ∨ c = ']' ∨ c = '}') : Delimited (c :: rest) := by
  rintro _ ⟨⟩
  exact delimits

/-- What has been written is read with whatever delimits it still ahead. -/
def ReadsOn (document : Json) : Prop :=
  ∀ (fuel room : Nat) (rest : List Char), document.isReadable room = true →
    2 * (writeChars document).length ≤ fuel → Delimited rest →
      ∃ read, readValue fuel room (writeChars document ++ rest) = .ok (read, rest) ∧
        Reread document read

/-- Items are read up to the end of their list. -/
def ItemsReadOn (items : List Json) : Prop :=
  ∀ (fuel room : Nat) (done : List Json) (rest : List Char), items ≠ [] →
    areReadable room items = true → 2 * (writeItems items).length < fuel →
      ∃ read, readItems fuel room done (writeItems items ++ ']' :: rest) =
          .ok (arr (done.reverse ++ read), rest) ∧
        List.Forall₂ Reread items read

/-- Fields are read up to the end of their object. -/
def FieldsReadOn (fields : List (String × Json)) : Prop :=
  ∀ (fuel room : Nat) (done : List (String × Json)) (rest : List Char), fields ≠ [] →
    fieldsAreReadable room fields = true → 2 * (writeFields fields).length < fuel →
      ∃ read, readFields fuel room done (writeFields fields ++ '}' :: rest) =
          .ok (obj (assignAll read done), rest) ∧
        FieldsReread fields read

theorem readsOn_scalar {document : Json} (scalar : document.isScalar = true) :
    ReadsOn document := by
  intro fuel room rest readable enough delimited
  obtain ⟨c, others, written, opens⟩ := writeChars_scalar scalar
  obtain ⟨read, came, reread⟩ := readScalar_writeChars scalar readable delimited
  rw [written] at enough came ⊢
  cases fuel with
  | zero => cases enough
  | succ fuel => exact ⟨read, by rw [List.cons_append, readValue_scalar opens]; exact came, reread⟩

theorem readsOn_str (text : String) : ReadsOn (str text) := by
  intro fuel room rest readable enough delimited
  obtain ⟨after, written, came⟩ := readString_quote text rest
  cases fuel with
  | zero => cases enough
  | succ fuel =>
    refine ⟨_, ?_, .str text⟩
    rw [writeChars, written, readValue, came]
    rfl

theorem itemsReadOn_singleton {item : Json} (back : ReadsOn item) : ItemsReadOn [item] := by
  intro fuel room done rest _ readable enough
  rw [areReadable, Bool.and_eq_true] at readable
  rw [writeItems] at enough ⊢
  obtain ⟨fuel, rfl⟩ := Nat.exists_eq_add_of_le' (Nat.one_le_of_lt enough)
  obtain ⟨read, came, reread⟩ := back fuel room (']' :: rest) readable.1 (by omega)
    (delimited_cons (.inr (.inl rfl)))
  refine ⟨[read], ?_, .cons reread .nil⟩
  rw [readItems_last came, List.reverse_cons]

theorem itemsReadOn_cons {item next : Json} {items : List Json} (back : ReadsOn item)
    (others : ItemsReadOn (next :: items)) : ItemsReadOn (item :: next :: items) := by
  intro fuel room done rest _ readable enough
  rw [areReadable, Bool.and_eq_true] at readable
  rw [writeItems] at enough ⊢
  rw [List.length_append, List.length_cons, List.length_cons] at enough
  obtain ⟨fuel, rfl⟩ := Nat.exists_eq_add_of_le' (Nat.one_le_of_lt enough)
  obtain ⟨c, left, opens, solid, -⟩ := (opens_writeItems next items).append (']' :: rest)
  -- The item is read up to the comma, and the reader goes on with the item done.
  obtain ⟨first, came, reread⟩ := back fuel room (',' :: ' ' :: c :: left) readable.1 (by omega)
    (delimited_cons (.inl rfl))
  obtain ⟨read, went, rereads⟩ :=
    others fuel room (first :: done) rest (List.cons_ne_nil _ _) readable.2 (by omega)
  refine ⟨first :: read, ?_, .cons reread rereads⟩
  rw [List.append_assoc, List.cons_append, List.cons_append, opens, readItems_next came solid,
    ← opens, went, List.reverse_cons, List.append_assoc, List.singleton_append]

theorem readsOn_arr {items : List Json} (each : ItemsReadOn items) : ReadsOn (arr items) := by
  intro fuel room rest readable enough delimited
  rw [isReadable, Bool.and_eq_true, decide_eq_true_eq] at readable
  rw [writeChars, List.length_append, List.length_cons, List.length_singleton] at enough
  obtain ⟨fuel, rfl⟩ := Nat.exists_eq_add_of_le' (show 1 ≤ fuel by omega)
  rw [writeChars, List.append_assoc, List.cons_append, List.singleton_append]
  cases items with
  | nil =>
    refine ⟨_, ?_, .arr .nil⟩
    rw [writeItems, List.nil_append, readValue, if_neg (Nat.ne_of_gt readable.1)]
    rfl
  | cons item items =>
    obtain ⟨c, left, opens, solid, more, -⟩ := (opens_writeItems item items).append (']' :: rest)
    obtain ⟨read, came, reread⟩ :=
      each fuel (room - 1) [] rest (List.cons_ne_nil _ _) readable.2 (by omega)
    refine ⟨arr read, ?_, .arr reread⟩
    rw [opens] at came ⊢
    rw [readValue_list readable.1 solid more, came]
    rfl

theorem fieldsReadOn_singleton {value : Json} (key : String) (back : ReadsOn value) :
    FieldsReadOn [(key, value)] := by
  intro fuel room done rest _ readable enough
  rw [fieldsAreReadable, Bool.and_eq_true] at readable
  rw [writeFields, List.length_append, List.length_cons, List.length_cons] at enough
  obtain ⟨fuel, rfl⟩ := Nat.exists_eq_add_of_le' (Nat.one_le_of_lt enough)
  obtain ⟨c, left, opens, solid, -⟩ := (opens_writeChars value).append ('}' :: rest)
  obtain ⟨read, came, reread⟩ := back fuel room ('}' :: rest) readable.1 (by omega)
    (delimited_cons (.inr (.inr rfl)))
  refine ⟨[(joined key, read)], ?_, .cons key reread .nil⟩
  rw [writeFields, List.append_assoc, List.cons_append, List.cons_append, opens]
  rw [opens] at came
  exact readFields_last (readKey_quote key solid) came

theorem fieldsReadOn_cons {value : Json} {next : String × Json} {fields : List (String × Json)}
    (key : String) (back : ReadsOn value) (others : FieldsReadOn (next :: fields)) :
    FieldsReadOn ((key, value) :: next :: fields) := by
  intro fuel room done rest _ readable enough
  rw [fieldsAreReadable, Bool.and_eq_true] at readable
  rw [writeFields] at enough ⊢
  rw [List.length_append, List.length_append, List.length_cons, List.length_cons, List.length_cons,
    List.length_cons] at enough
  obtain ⟨fuel, rfl⟩ := Nat.exists_eq_add_of_le' (Nat.one_le_of_lt enough)
  obtain ⟨c, left, opens, solid, -⟩ := (opens_writeFields next fields).append ('}' :: rest)
  obtain ⟨c', left', opens', solid', -⟩ :=
    (opens_writeChars value).append (',' :: ' ' :: c :: left)
  obtain ⟨first, came, reread⟩ := back fuel room (',' :: ' ' :: c :: left) readable.1 (by omega)
    (delimited_cons (.inl rfl))
  obtain ⟨read, went, rereads⟩ :=
    others fuel room (assign (joined key) first done) rest (List.cons_ne_nil _ _) readable.2
      (by omega)
  refine ⟨(joined key, first) :: read, ?_, .cons key reread rereads⟩
  rw [opens'] at came
  rw [List.append_assoc, List.append_assoc, List.cons_append, List.cons_append, List.cons_append,
    List.cons_append, opens, opens', readFields_next (readKey_quote key solid') came solid, ← opens,
    went]
  rfl

theorem readsOn_obj {fields : List (String × Json)} (each : FieldsReadOn fields) :
    ReadsOn (obj fields) := by
  intro fuel room rest readable enough delimited
  rw [isReadable, Bool.and_eq_true, decide_eq_true_eq] at readable
  rw [writeChars, List.length_append, List.length_cons, List.length_singleton] at enough
  obtain ⟨fuel, rfl⟩ := Nat.exists_eq_add_of_le' (show 1 ≤ fuel by omega)
  rw [writeChars, List.append_assoc, List.cons_append, List.singleton_append]
  cases fields with
  | nil =>
    refine ⟨_, ?_, .obj .nil⟩
    rw [writeFields, List.nil_append, readValue, if_neg (Nat.ne_of_gt readable.1)]
    rfl
  | cons field fields =>
    obtain ⟨c, left, opens, solid, -, more, -⟩ :=
      (opens_writeFields field fields).append ('}' :: rest)
    obtain ⟨read, came, reread⟩ :=
      each fuel (room - 1) [] rest (List.cons_ne_nil _ _) readable.2 (by omega)
    refine ⟨_, ?_, .obj reread⟩
    rw [opens] at came ⊢
    rw [readValue_object readable.1 solid more, came]

mutual

theorem readsOn : ∀ document : Json, ReadsOn document
  | .null => readsOn_scalar rfl
  | .bool _ => readsOn_scalar rfl
  | .int _ => readsOn_scalar rfl
  | .float _ => readsOn_scalar rfl
  | .str text => readsOn_str text
  | .arr items => readsOn_arr (itemsReadOn items)
  | .obj fields => readsOn_obj (fieldsReadOn fields)

theorem itemsReadOn : ∀ items : List Json, ItemsReadOn items
  | [] => fun _ _ _ _ nonempty => absurd rfl nonempty
  | [item] => itemsReadOn_singleton (readsOn item)
  | item :: next :: items => itemsReadOn_cons (readsOn item) (itemsReadOn (next :: items))

theorem fieldsReadOn : ∀ fields : List (String × Json), FieldsReadOn fields
  | [] => fun _ _ _ _ nonempty => absurd rfl nonempty
  | [(key, value)] => fieldsReadOn_singleton key (readsOn value)
  | (key, value) :: next :: fields =>
    fieldsReadOn_cons key (readsOn value) (fieldsReadOn (next :: fields))

end

theorem skipSpace_writeChars (document : Json) :
    skipSpace (writeChars document) = writeChars document := by
  obtain ⟨c, others, opens, solid, -⟩ := opens_writeChars document
  rw [opens, skipSpace_cons solid]

/-- What is written begins with no mark, so it is read from its first character on. -/
theorem read_write_eq (document : Json) :
    read (write document) = placed (writeChars document) (readWhole (writeChars document)) := by
  obtain ⟨c, others, opens, -, -, -, unmarked⟩ := opens_writeChars document
  rw [read, write, String.toList_ofList]
  split
  · rename_i marked
    cases opens.symm.trans marked
    exact absurd rfl unmarked
  · rfl

/-- A document that can be read at all is read from its text, with nothing left over. -/
theorem read_write {document : Json} (readable : document.isReadable depthLimit = true) :
    ∃ got, read (write document) = .ok got ∧ Reread document got := by
  have delimited : Delimited [] := nofun
  obtain ⟨got, came, reread⟩ := readsOn document (2 * (writeChars document).length + 2) depthLimit
    [] readable (Nat.le_add_right _ _) delimited
  rw [List.append_nil] at came
  refine ⟨got, ?_, reread⟩
  rw [read_write_eq, readWhole, skipSpace_writeChars, came]
  rfl

/-! ## Documents that are too deep -/

/-- Lists one inside the other. -/
def nest : Nat → Json
  | 0 => arr []
  | depth + 1 => arr [nest depth]

theorem writeChars_nest_succ (depth : Nat) :
    writeChars (nest (depth + 1)) = '[' :: writeChars (nest depth) ++ [']'] := by
  rw [nest, writeChars, writeItems]

theorem writeChars_nest (depth : Nat) : ∃ others, writeChars (nest depth) = '[' :: others := by
  cases depth <;> exact ⟨_, rfl⟩

theorem lt_length_nest (depth : Nat) : depth < (writeChars (nest depth)).length := by
  induction depth with
  | zero => decide
  | succ depth ih =>
    rw [writeChars_nest_succ, List.length_append, List.length_cons, List.length_singleton]
    omega

/-- Lists are not read when there is not enough room for them. -/
theorem readValue_nest (depth : Nat) : ∀ (fuel room : Nat) (rest : List Char),
    room ≤ depth → 2 * depth < fuel →
      ∃ ahead, readValue fuel room (writeChars (nest depth) ++ rest) =
        .error (.tooDeep, ahead) := by
  induction depth with
  | zero =>
    rintro (_ | fuel) room rest tight enough
    · cases enough
    · cases Nat.le_zero.mp tight
      exact ⟨_, rfl⟩
  | succ depth ih =>
    -- One list takes two steps of the reader: one for its bracket, one for its item.
    rintro (_ | _ | fuel) room rest tight enough
    · cases enough
    · omega
    · cases room with
      | zero => exact ⟨_, rfl⟩
      | succ room =>
        obtain ⟨others, opens⟩ := writeChars_nest depth
        obtain ⟨ahead, came⟩ := ih fuel room (']' :: rest) (by omega) (by omega)
        refine ⟨ahead, ?_⟩
        rw [writeChars_nest_succ, List.append_assoc, List.cons_append, List.singleton_append, opens,
          List.cons_append, readValue_list (Nat.succ_pos room) (by decide) (by decide),
          ← List.cons_append, ← opens, Nat.succ_sub_one, readItems, came]
        rfl

theorem readFields_error {refusal : Refusal} (named : readKey start = .ok (key, text))
    (came : readValue fuel room text = .error refusal) :
    readFields (fuel + 1) room fields start = .error refusal := by
  rw [readFields, named]
  simp only [Except.bind, bind, came]

theorem writeFields_cons (key : String) (value : Json) (fields : List (String × Json)) :
    ∃ others, writeFields ((key, value) :: fields) =
      quote key ++ ':' :: ' ' :: (writeChars value ++ others) := by
  cases fields with
  | nil => exact ⟨[], by rw [writeFields, List.append_nil]⟩
  | cons next fields =>
    exact ⟨_, by rw [writeFields, List.append_assoc, List.cons_append, List.cons_append]⟩

/-- An object with lists that are nested too deep is not read. -/
theorem read_nest {depth : Nat} (deep : depthLimit ≤ depth + 1) (key : String)
    (fields : List (String × Json)) :
    ∃ error, read (write (obj ((key, nest depth) :: fields))) = .error error ∧
      error.cause = .tooDeep := by
  obtain ⟨after, fielded⟩ := writeFields_cons key (nest depth) fields
  obtain ⟨others, lists⟩ := writeChars_nest depth
  have written : writeChars (obj ((key, nest depth) :: fields)) =
      '{' :: (writeFields ((key, nest depth) :: fields) ++ ['}']) := by
    rw [writeChars, List.cons_append]
  have long : depth < (writeChars (obj ((key, nest depth) :: fields))).length := by
    have inner := lt_length_nest depth
    rw [written, fielded]
    simp only [List.length_append, List.length_cons]
    omega
  obtain ⟨ahead, came⟩ := readValue_nest depth
    (2 * (writeChars (obj ((key, nest depth) :: fields))).length) (depthLimit - 1)
    (after ++ ['}']) (Nat.sub_le_of_le_add deep) (by omega)
  obtain ⟨c, left, opens, solid, -, more, -⟩ :=
    (opens_writeFields (key, nest depth) fields).append ['}']
  have failed : readValue (2 * (writeChars (obj ((key, nest depth) :: fields))).length + 2)
      depthLimit (writeChars (obj ((key, nest depth) :: fields))) = .error (.tooDeep, ahead) := by
    rw [lists, List.cons_append] at came
    generalize 2 * (writeChars (obj ((key, nest depth) :: fields))).length = fuel at came
    rw [written, opens, readValue_object (by decide) solid more, ← opens, fielded,
      List.append_assoc, List.cons_append, List.cons_append, List.append_assoc, lists,
      List.cons_append]
    exact readFields_error (readKey_quote key (by decide)) came
  refine ⟨.at .tooDeep (writeChars (obj ((key, nest depth) :: fields))) ahead, ?_, rfl⟩
  rw [read_write_eq, readWhole, skipSpace_writeChars, failed]
  rfl

/-! ## Fields that have been read -/

theorem lookup?_assign (name key : String) (value : Json) (fields : List (String × Json)) :
    lookup? name (assign key value fields) =
      if key = name then some value else lookup? name fields := by
  induction fields with
  | nil => rfl
  | cons field rest ih =>
    obtain ⟨other, old⟩ := field
    by_cases same : other = key
    · subst same
      by_cases named : other = name <;> simp [assign, lookup?, named]
    · by_cases named : other = name
      · subst named
        simp [assign, lookup?, same, Ne.symm same]
      · simp [assign, lookup?, same, named, ih]

section

variable {name : String} (plain : ∀ c ∈ name.toList, c.toNat < 0xd800)
  {fields read : List (String × Json)}

include plain

/-- Fields of other names leave the value of a name as it is. -/
theorem lookup?_of_absent (each : FieldsReread fields read) (absent : name ∉ fields.map Prod.fst)
    (done : List (String × Json)) : lookup? name (assignAll read done) = lookup? name done := by
  induction fields generalizing read done with
  | nil =>
    cases each
    rfl
  | cons field rest ih =>
    cases each with
    | @cons _ got _ _ key first others =>
      rw [List.map_cons, List.mem_cons, not_or] at absent
      have step := ih others absent.2 (assign (joined key) got done)
      rwa [lookup?_assign, if_neg fun same => absent.1 ((joined_eq_iff plain).mp same).symm] at step

/-- Each field is found again under its name. -/
theorem lookup?_of_mem (each : FieldsReread fields read) (distinct : (fields.map Prod.fst).Nodup)
    {value : Json} (among : (name, value) ∈ fields) (done : List (String × Json)) :
    ∃ got, lookup? name (assignAll read done) = some got ∧ Reread value got := by
  induction fields generalizing read done with
  | nil => cases among
  | cons field rest ih =>
    cases each with
    | @cons _ got _ _ key first others =>
      rw [List.map_cons, List.nodup_cons] at distinct
      rcases List.mem_cons.mp among with same | among
      · cases same
        have step := lookup?_of_absent plain others distinct.1 (assign (joined name) got done)
        rw [lookup?_assign, if_pos ((joined_eq_iff plain).mpr rfl)] at step
        exact ⟨got, step, first⟩
      · exact ih others distinct.2 among (assign (joined key) got done)

end

end VisualNovel.Json
