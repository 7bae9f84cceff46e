import Mathlib.Data.List.DropRight
import Mathlib.Data.List.Nodup
import Mathlib.Data.Set.Insert

/-!
# What the message server rests on

The server is written with Django and Django REST framework, and keeps its data in SQLite. None of
them is part of the repository. `Framework` is what the views of the server use of them, with their
documented behaviour: the validation of a request by a `ModelSerializer`, and tables with an
`AutoField` as primary key. Everything about the server holds for each such framework.

The last section builds one, so that the server can be run.

## Main definitions

* `Json`, `Body` — what a request carries
* `Framework` — what is asked of Django, of REST framework and of SQLite
* `plainFramework` — one of them
-/

namespace BluetoothAuto.Server

/-! ### Text -/

/-- A character of a Python string: JSON can escape surrogates that belong to no pair. -/
inductive PyChar where
  /-- A Unicode scalar value. -/
  | scalar (c : Char)
  /-- A lone surrogate. -/
  | surrogate (n : Fin 2048)
deriving DecidableEq

/-- A Python string. -/
abbrev Text := List PyChar

/-- A Python string literal. -/
def text (cs : List Char) : Text := cs.map .scalar

/-- `str.isspace` for one character. -/
def PyChar.isSpace : PyChar → Bool
  | .scalar c =>
    (9 ≤ c.toNat && c.toNat ≤ 13) || (28 ≤ c.toNat && c.toNat ≤ 32) || c.toNat == 0x85 ||
      c.toNat == 0xa0 || c.toNat == 0x1680 || (0x2000 ≤ c.toNat && c.toNat ≤ 0x200a) ||
      c.toNat == 0x2028 || c.toNat == 0x2029 || c.toNat == 0x202f || c.toNat == 0x205f ||
      c.toNat == 0x3000
  | .surrogate _ => false

/-- A lone surrogate. -/
def PyChar.isSurrogate : PyChar → Bool
  | .scalar _ => false
  | .surrogate _ => true

/-- `str.strip()`. -/
def strip (t : Text) : Text := (t.dropWhile PyChar.isSpace).rdropWhile PyChar.isSpace

/-- A text without spaces is not stripped. -/
theorem strip_eq_self {t : Text} (h : ∀ c ∈ t, c.isSpace = false) : strip t = t := by
  have hleft : t.dropWhile PyChar.isSpace = t := by
    rw [List.dropWhile_eq_self_iff]
    intro hlen
    simp [h _ (List.getElem_mem hlen)]
  rw [strip, hleft, List.rdropWhile_eq_self_iff]
  intro hne
  simp [h _ (List.getLast_mem hne)]

/-! ### Requests -/

/-- A JSON value as the parser returns it. -/
inductive Json where
  /-- `null`. -/
  | null
  /-- A boolean. -/
  | bool (b : Bool)
  /-- A number, with what `str` makes of it. -/
  | number (str : Text)
  /-- A string. -/
  | string (s : Text)
  /-- A list. -/
  | array (elements : List Json)
  /-- An object, with its members in the order of the body. -/
  | object (members : List (Text × Json))

/-- The body of a request, `none` if it is not JSON. -/
abbrev Body := Option Json

/-- The member of an object. Of members with the same name, the last one counts. -/
def member (members : List (Text × Json)) (name : Text) : Option Json :=
  (members.reverse.find? fun m => m.1 = name).map Prod.snd

/-! ### Validation -/

/-- Why a field is refused. -/
inductive ErrorCode where
  /-- There is no such member. -/
  | required
  /-- It is `null`. -/
  | null
  /-- Nothing but space. -/
  | blank
  /-- Not a string. -/
  | invalid
  /-- Too long. -/
  | maxLength
  /-- It contains a null character. -/
  | nullCharactersNotAllowed
deriving DecidableEq

/-- Why a request is refused. -/
inductive Errors where
  /-- The body cannot be parsed. -/
  | parseError
  /-- The body is `null`. -/
  | noData
  /-- The body is not an object. -/
  | notADictionary
  /-- The field `chars` is refused. -/
  | chars (codes : List ErrorCode)
deriving DecidableEq

/-- `models.CharField`. -/
structure CharField where
  /-- `max_length`. -/
  maxLength : ℕ

/-- The name of the one field of the models. -/
def charsName : Text := text ['c', 'h', 'a', 'r', 's']

/-! ### The framework -/

/-- A row of a model with the one field `chars`. -/
structure Row where
  /-- The primary key. -/
  id : ℕ
  /-- The field. -/
  chars : Text
deriving DecidableEq

/-- The largest id that SQLite gives to a row. -/
def largestId : ℕ := 9223372036854775807

/-- What the views use of Django, of REST framework and of SQLite. -/
structure Framework where
  /-- `is_valid()` of a `ModelSerializer` with `fields = '__all__'`, for a model with the one field
  `chars`: the validated value of `chars`, or the errors. -/
  isValid : CharField → Json → Except Errors Text
  /-- The table of such a model. -/
  Table : Type
  /-- `objects.all()`. -/
  all : Table → List Row
  /-- `objects.get(pk=pk)`, or `none` where it raises `DoesNotExist`. -/
  get : Table → ℕ → Option Row
  /-- The ids that the table has ever used. -/
  used : Table → Set ℕ
  /-- `objects.create(chars=chars)`, or `none` where the database raises an exception. -/
  create : Table → Text → Option (Row × Table)
  /-- `delete()` of the row with the primary key `pk`. -/
  delete : Table → ℕ → Table
  /-- What is validated is an object. -/
  isValid_string : ∀ F s, isValid F (.string s) = .error .notADictionary
  /-- A field is required. -/
  isValid_missing : ∀ F members, member members charsName = none →
    isValid F (.object members) = .error (.chars [.required])
  /-- A text without space around it, without null characters and without surrogates is validated by
  its length, and stays as it is. -/
  isValid_text : ∀ F members t, member members charsName = some (.string t) → strip t = t →
    .scalar '\x00' ∉ t → t.any PyChar.isSurrogate = false →
      isValid F (.object members) =
        if t = [] then .error (.chars [.blank])
        else if F.maxLength < t.length then .error (.chars [.maxLength]) else .ok t
  /-- A primary key is unique. -/
  nodup_all : ∀ t, ((all t).map Row.id).Nodup
  /-- A row is found by its primary key. -/
  get_eq_some_iff : ∀ t pk r, get t pk = some r ↔ r ∈ all t ∧ r.id = pk
  /-- The id of a row has been used. -/
  used_of_mem : ∀ t, ∀ r ∈ all t, r.id ∈ used t
  /-- A text with a lone surrogate has no UTF-8 encoding, and an `AUTOINCREMENT` key ends with the
  largest id. -/
  create_eq_none_iff : ∀ t chars,
    create t chars = none ↔ chars.any PyChar.isSurrogate = true ∨ largestId ∈ used t
  /-- The new row has the text it was given. -/
  chars_create : ∀ t chars r t', create t chars = some (r, t') → r.chars = chars
  /-- `AUTOINCREMENT`: its id has never been used. -/
  id_create : ∀ t chars r t', create t chars = some (r, t') → r.id ∉ used t
  used_create : ∀ t chars r t', create t chars = some (r, t') → used t' = insert r.id (used t)
  get_create : ∀ t chars r t', create t chars = some (r, t') →
    ∀ pk, get t' pk = if pk = r.id then some r else get t pk
  used_delete : ∀ t pk, used (delete t pk) = used t
  get_delete : ∀ t pk pk', get (delete t pk) pk' = if pk' = pk then none else get t pk'

theorem Framework.id_of_get {F : Framework} {t : F.Table} {pk : ℕ} {r : Row}
    (h : F.get t pk = some r) : r.id = pk :=
  ((F.get_eq_some_iff t pk r).mp h).2

/-! ### A framework -/

/-- The errors of the validators of the field, all of which are asked. -/
def CharField.runValidators (f : CharField) (value : Text) : List ErrorCode :=
  (if f.maxLength < value.length then [.maxLength] else []) ++
    (if .scalar '\x00' ∈ value then [.nullCharactersNotAllowed] else [])

/-- The validation of a string, or of a number as a string. -/
def CharField.validateText (f : CharField) (t : Text) : Except (List ErrorCode) Text :=
  if strip t = [] then .error [.blank]
  else
    match f.runValidators (strip t) with
    | [] => .ok (strip t)
    | codes => .error codes

/-- `CharField.run_validation` of a serializer field that is required, not null, not blank, and
trimmed. -/
def CharField.runValidation (f : CharField) : Option Json → Except (List ErrorCode) Text
  | none => .error [.required]
  | some .null => .error [.null]
  | some (.bool _) => .error [.invalid]
  | some (.array _) => .error [.invalid]
  | some (.object _) => .error [.invalid]
  | some (.number str) => f.validateText str
  | some (.string s) => f.validateText s

/-- `is_valid()`. Members of other names are ignored. -/
def CharField.isValid (f : CharField) : Json → Except Errors Text
  | .object members => (f.runValidation (member members charsName)).mapError .chars
  | .null => .error .noData
  | _ => .error .notADictionary

theorem CharField.isValid_text (f : CharField) {members : List (Text × Json)} {t : Text}
    (hmember : member members charsName = some (.string t)) (hstrip : strip t = t)
    (hnull : PyChar.scalar '\x00' ∉ t) :
    f.isValid (.object members) =
      if t = [] then .error (.chars [.blank])
      else if f.maxLength < t.length then .error (.chars [.maxLength]) else .ok t := by
  rw [CharField.isValid, hmember, CharField.runValidation, CharField.validateText, hstrip,
    CharField.runValidators, if_neg hnull]
  split_ifs <;> rfl

/-- The rows of a model, in the order of their ids. -/
structure Table where
  /-- The rows. -/
  rows : List Row
  /-- The largest id that was ever used, which SQLite keeps for an `AUTOINCREMENT` key. -/
  sequence : ℕ
  /-- No two rows have the same id. -/
  nodup : (rows.map Row.id).Nodup
  /-- Every id was used. -/
  id_le : ∀ r ∈ rows, r.id ≤ sequence

namespace Table

/-- No rows, and no ids used. -/
def empty : Table := ⟨[], 0, List.nodup_nil, List.forall_mem_nil _⟩

/-- `objects.get(pk=pk)`. -/
def get (t : Table) (pk : ℕ) : Option Row := t.rows.find? fun r => r.id = pk

/-- The row that `objects.create(chars=chars)` adds. -/
def newRow (t : Table) (chars : Text) : Row := ⟨t.sequence + 1, chars⟩

/-- The rows with a new one. -/
def add (t : Table) (chars : Text) : Table where
  rows := t.rows ++ [t.newRow chars]
  sequence := t.sequence + 1
  nodup := by
    rw [List.map_append, List.nodup_append]
    refine ⟨t.nodup, List.nodup_singleton _, ?_⟩
    intro a ha b hb hab
    obtain ⟨r, hr, rfl⟩ := List.mem_map.mp ha
    have hle := t.id_le r hr
    have hnew : b = t.sequence + 1 := List.mem_singleton.mp hb
    omega
  id_le := by
    intro r hr
    rcases List.mem_append.mp hr with hr | hr
    · exact (t.id_le r hr).trans (Nat.le_succ _)
    · rw [List.mem_singleton.mp hr]
      exact le_rfl

/-- `objects.create(chars=chars)`. -/
def create (t : Table) (chars : Text) : Option (Row × Table) :=
  if chars.any PyChar.isSurrogate = true ∨ largestId ≤ t.sequence then none
  else some (t.newRow chars, t.add chars)

/-- `delete()` of the row with the primary key `pk`. -/
def delete (t : Table) (pk : ℕ) : Table where
  rows := t.rows.filter fun r => r.id ≠ pk
  sequence := t.sequence
  nodup := t.nodup.sublist (List.filter_sublist.map _)
  id_le := fun r hr => t.id_le r (List.mem_filter.mp hr).1

/-- Two rows with the same id are the same row. -/
theorem eq_of_id_eq {t : Table} {r r' : Row} (hr : r ∈ t.rows) (hr' : r' ∈ t.rows)
    (h : r.id = r'.id) : r = r' :=
  List.inj_on_of_nodup_map t.nodup hr hr' h

/-- A row is found under its id. -/
theorem get_eq_some_iff (t : Table) (pk : ℕ) (r : Row) :
    t.get pk = some r ↔ r ∈ t.rows ∧ r.id = pk := by
  have hfound : ∀ {r'}, t.get pk = some r' → r'.id = pk := fun h => by simpa using List.find?_some h
  constructor
  · intro h
    exact ⟨List.mem_of_find?_eq_some h, hfound h⟩
  · rintro ⟨hr, hid⟩
    have hsome : (t.get pk).isSome = true :=
      List.find?_isSome.mpr ⟨r, hr, decide_eq_true hid⟩
    obtain ⟨r', hget⟩ := Option.isSome_iff_exists.mp hsome
    rw [hget, eq_of_id_eq (List.mem_of_find?_eq_some hget) hr ((hfound hget).trans hid.symm)]

theorem create_eq_some {t t' : Table} {chars : Text} {r : Row} (h : t.create chars = some (r, t')) :
    r = t.newRow chars ∧ t' = t.add chars := by
  obtain ⟨-, h⟩ := Option.ite_none_left_eq_some.mp h
  cases h
  exact ⟨rfl, rfl⟩

/-- The new row is found under the new id, everything else as before. -/
theorem get_add (t : Table) (chars : Text) (pk : ℕ) :
    (t.add chars).get pk = if pk = t.sequence + 1 then some (t.newRow chars) else t.get pk := by
  split_ifs with hpk
  · rw [get_eq_some_iff]
    exact ⟨List.mem_append_right _ (List.mem_singleton_self _), hpk.symm⟩
  · have hnew : [t.newRow chars].find? (fun r => r.id = pk) = none :=
      List.find?_eq_none.mpr (by simpa [newRow] using Ne.symm hpk)
    rw [get, add, List.find?_append, hnew, Option.or_none, get]

/-- The deleted row is not found, everything else as before. -/
theorem get_delete (t : Table) (pk pk' : ℕ) :
    (t.delete pk).get pk' = if pk' = pk then none else t.get pk' := by
  ext r
  rw [get_eq_some_iff, delete, List.mem_filter, decide_eq_true_iff]
  split_ifs with hpk
  · subst hpk
    exact iff_of_false (fun h => h.1.2 h.2) nofun
  · rw [get_eq_some_iff]
    constructor
    · rintro ⟨⟨hr, -⟩, hid⟩
      exact ⟨hr, hid⟩
    · rintro ⟨hr, hid⟩
      exact ⟨⟨hr, hid ▸ hpk⟩, hid⟩

end Table

/-- A framework that keeps its rows in a list. -/
def plainFramework : Framework where
  isValid := CharField.isValid
  Table := Table
  all := Table.rows
  get := Table.get
  used t := {pk | pk ≤ t.sequence}
  create := Table.create
  delete := Table.delete
  isValid_string _ _ := rfl
  isValid_missing f members h := by
    rw [CharField.isValid, h]
    rfl
  isValid_text f _ _ hmember hstrip hnull _ := f.isValid_text hmember hstrip hnull
  nodup_all := Table.nodup
  get_eq_some_iff := Table.get_eq_some_iff
  used_of_mem := Table.id_le
  create_eq_none_iff t chars := by
    rw [Table.create]
    split_ifs with h
    · exact iff_of_true rfl h
    · exact iff_of_false nofun h
  chars_create t chars r t' h := by
    rw [(Table.create_eq_some h).1]
    rfl
  id_create t chars r t' h := by
    rw [(Table.create_eq_some h).1]
    exact Nat.not_succ_le_self t.sequence
  used_create t chars r t' h := by
    obtain ⟨rfl, rfl⟩ := Table.create_eq_some h
    ext pk
    exact Nat.le_succ_iff.trans Or.comm
  get_create t chars r t' h pk := by
    obtain ⟨rfl, rfl⟩ := Table.create_eq_some h
    exact t.get_add chars pk
  used_delete _ _ := rfl
  get_delete := Table.get_delete

end BluetoothAuto.Server
