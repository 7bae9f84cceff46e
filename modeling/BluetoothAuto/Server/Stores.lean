import BluetoothAuto.Lib.FreshStore
import BluetoothAuto.Server.Views
import Mathlib.Data.Set.Basic

/-!
# The server as two stores

The eight views implement two stores that hand out keys, one for each model: `FreshStore` with the
ids as keys and the texts as values. What a collection accepts is what its serializer accepts.

They do so as long as no `post` raises an exception that nobody catches. `DenmList.post` does if it
cannot print the data, and both do if what the serializer has accepted cannot be stored.

## Main results

* `accept_hex` — hexadecimal texts of 1 to 100 characters are accepted, and stored unchanged
* `view_refines` — one request is an operation on the store it is for
* `server_refines_stores_iff` — when all responses, and the database, are those of two stores
-/

namespace BluetoothAuto.Server

open FreshStore

variable {F : Framework}

/-! ### The abstraction -/

/-- A table as a store. -/
def Framework.store (F : Framework) (t : F.Table) : FreshStore ℕ Text where
  lookup pk := (F.get t pk).map Row.chars
  used := F.used t
  used_of_lookup := by
    intro pk v h
    obtain ⟨r, hr, -⟩ := Option.map_eq_some_iff.mp h
    obtain ⟨hmem, rfl⟩ := (F.get_eq_some_iff t pk r).mp hr
    exact F.used_of_mem t r hmem

/-- The database as a family of stores. -/
def stores (db : Database F) : TableName → FreshStore ℕ Text := fun n => F.store (db n)

/-- The serializer of a collection. -/
def serializer : TableName → ModelSerializer
  | .denmCamDenm => denmSerializer
  | .denmCamCam => camSerializer

/-- What a collection accepts. -/
def accept (F : Framework) (n : TableName) (body : Body) : Except Errors Text :=
  (requestData body).bind ((serializer n).isValid F)

/-- What a collection accepts can be stored: it has no lone surrogate, and the largest id has not
been used. -/
def Storable (n : TableName) (body : Body) (db : Database F) : Prop :=
  ∀ chars, accept F n body = .ok chars →
    chars.any PyChar.isSurrogate = false ∧ largestId ∉ F.used (db n)

/-- The request raises no exception that nobody catches. -/
def Answered (db : Database F) : Url × Method → Prop
  | (.denmList, .post body) => Printable body ∧ Storable .denmCamDenm body db
  | (.camList, .post body) => Storable .denmCamCam body db
  | _ => True

/-- An answer as a response. -/
def respond : Answer ℕ Text Errors → Response
  | .created k v => ⟨201, .row ⟨k, v⟩⟩
  | .refused e => ⟨400, .errors e⟩
  | .listed rows => ⟨200, .rows (rows.map fun r => ⟨r.1, r.2⟩)⟩
  | .found k v => ⟨200, .row ⟨k, v⟩⟩
  | .deleted => ⟨204, .empty⟩
  | .absent => ⟨404, .notFound⟩

/-- An operation on a collection, as a request. -/
def httpRequest : TableName × Op Pk Body → Url × Method
  | (.denmCamDenm, .list) => (.denmList, .get)
  | (.denmCamDenm, .post body) => (.denmList, .post body)
  | (.denmCamDenm, .get pk) => (.denmDetail pk, .get)
  | (.denmCamDenm, .delete pk) => (.denmDetail pk, .delete)
  | (.denmCamCam, .list) => (.camList, .get)
  | (.denmCamCam, .post body) => (.camList, .post body)
  | (.denmCamCam, .get pk) => (.camDetail pk, .get)
  | (.denmCamCam, .delete pk) => (.camDetail pk, .delete)

/-- The operation a request is for. -/
def operation (r : TableName × Op Pk Body) : TableName × Op ℕ Body :=
  (r.1, r.2.mapKey Subtype.val)

/-! ### Tables -/

@[simp] theorem Framework.lookup_store (t : F.Table) (pk : ℕ) :
    (F.store t).lookup pk = (F.get t pk).map Row.chars := rfl

/-- A new row is a new entry. -/
theorem Framework.store_create {t t' : F.Table} {chars : Text} {r : Row}
    (h : F.create t chars = some (r, t')) : F.store t' = (F.store t).insert r.id chars := by
  ext1
  · funext pk
    show (F.get t' pk).map Row.chars = Function.update (F.store t).lookup r.id (some chars) pk
    rw [F.get_create t chars r t' h]
    by_cases hpk : pk = r.id
    · rw [if_pos hpk, hpk, Function.update_self, Option.map_some, F.chars_create t chars r t' h]
    · rw [if_neg hpk, Function.update_of_ne hpk, Framework.lookup_store]
  · exact F.used_create t chars r t' h

/-- A deleted row is an erased entry. -/
theorem Framework.store_delete (t : F.Table) (pk : ℕ) :
    F.store (F.delete t pk) = (F.store t).erase pk := by
  ext1
  · funext pk'
    show (F.get (F.delete t pk) pk').map Row.chars = Function.update (F.store t).lookup pk none pk'
    rw [F.get_delete]
    by_cases hpk : pk' = pk
    · rw [if_pos hpk, hpk, Function.update_self, Option.map_none]
    · rw [if_neg hpk, Function.update_of_ne hpk, Framework.lookup_store]
  · exact F.used_delete t pk

/-- The rows are the entries. -/
theorem Framework.enumerates (t : F.Table) :
    (F.store t).Enumerates ((F.all t).map fun r => (r.id, r.chars)) := by
  refine ⟨?_, fun k v => ?_⟩
  · rw [List.map_map]
    exact F.nodup_all t
  · rw [Framework.lookup_store, List.mem_map, Option.map_eq_some_iff]
    constructor
    · rintro ⟨r, hr, heq⟩
      cases heq
      exact ⟨r, (F.get_eq_some_iff t r.id r).mpr ⟨hr, rfl⟩, rfl⟩
    · rintro ⟨r, hr, rfl⟩
      obtain ⟨hmem, rfl⟩ := (F.get_eq_some_iff t k r).mp hr
      exact ⟨r, hmem, rfl⟩

/-- The database after a change of one table. -/
theorem stores_update (db : Database F) (n : TableName) (t : F.Table) :
    stores (Function.update db n t) = Function.update (stores db) n (F.store t) :=
  Function.comp_update (fun t : F.Table => F.store t) db n t

/-! ### Views -/

/-- What a view does, in this database, to the store it is for. -/
def ViewRefines (n : TableName) (op : Op ℕ Body) (db : Database F)
    (done : Response × Database F) : Prop :=
  ∃ a s, Step (accept F n) (stores db n) op a s ∧ done.1 = respond a ∧
    stores done.2 = Function.update (stores db) n s

theorem listGet_refines (M : Model) (db : Database F) :
    ViewRefines M.dbTable .list db (listGet F M db) := by
  refine ⟨_, _, .listed (Framework.enumerates (db M.dbTable)), ?_,
    (Function.update_eq_self _ _).symm⟩
  simp [listGet, respond, List.map_map, Function.comp_def]

/-- `post` answers according to what the serializer accepts. -/
theorem listPost_eq (S : ModelSerializer) (body : Body) (db : Database F) :
    listPost F S body db =
      match (requestData body).bind (S.isValid F) with
      | .error e => (⟨400, .errors e⟩, db)
      | .ok chars =>
        match F.create (db S.model.dbTable) chars with
        | none => (⟨500, .serverError⟩, db)
        | some (row, t) => (⟨201, .row row⟩, Function.update db S.model.dbTable t) := by
  rw [listPost]
  cases requestData body with
  | error e => rfl
  | ok data =>
    simp only [validateAndSave, Except.bind]
    cases S.isValid F data with
    | error e => rfl
    | ok chars =>
      simp only [ModelSerializer.save]
      cases F.create (db S.model.dbTable) chars <;> rfl

/-- What is accepted can be stored iff it has no lone surrogate and there is an id left. -/
theorem create_isSome_iff (t : F.Table) (chars : Text) :
    (∃ created, F.create t chars = some created) ↔
      chars.any PyChar.isSurrogate = false ∧ largestId ∉ F.used t := by
  rw [← Option.isSome_iff_exists, ← Option.ne_none_iff_isSome, Ne, F.create_eq_none_iff, not_or,
    Bool.not_eq_true]

theorem listPost_refines {n : TableName} (hn : (serializer n).model.dbTable = n) {body : Body}
    {db : Database F} (h : Storable n body db) :
    ViewRefines n (.post body) db (listPost F (serializer n) body db) := by
  rw [listPost_eq, hn]
  cases haccept : accept F n body with
  | error e =>
    have haccept' := haccept
    rw [accept] at haccept'
    rw [haccept']
    exact ⟨_, _, .refused haccept, rfl, (Function.update_eq_self _ _).symm⟩
  | ok chars =>
    obtain ⟨⟨row, t⟩, hcreate⟩ := (create_isSome_iff (db n) chars).mpr (h chars haccept)
    have hfresh : row.id ∉ (stores db n).used := F.id_create _ _ _ _ hcreate
    have haccept' := haccept
    rw [accept] at haccept'
    simp only [haccept', hcreate]
    refine ⟨_, _, .created haccept hfresh, ?_, ?_⟩
    · rw [respond, ← F.chars_create _ _ _ _ hcreate]
    · rw [stores_update, Framework.store_create hcreate]
      rfl

/-- What cannot be stored is answered with 500. -/
theorem listPost_of_not_storable {n : TableName} (hn : (serializer n).model.dbTable = n)
    {body : Body} {db : Database F} (h : ¬ Storable n body db) :
    (listPost F (serializer n) body db).1 = ⟨500, .serverError⟩ := by
  rw [Storable, not_forall] at h
  obtain ⟨chars, h⟩ := h
  rw [Classical.not_imp, accept] at h
  obtain ⟨haccept, hnot⟩ := h
  have hcreate : F.create (db n) chars = none := by
    by_contra hsome
    exact hnot ((create_isSome_iff (db n) chars).mp (Option.ne_none_iff_exists'.mp hsome))
  rw [listPost_eq, hn]
  simp only [haccept, hcreate]

theorem detailGet_refines (M : Model) (pk : Pk) (db : Database F) :
    ViewRefines M.dbTable (.get pk.1) db (detailGet F M pk db) := by
  rw [detailGet]
  cases hget : getObject F M pk db with
  | none =>
    have hlookup : (stores db M.dbTable).lookup pk.1 = none := congrArg (Option.map Row.chars) hget
    exact ⟨_, _, .getAbsent hlookup, rfl, (Function.update_eq_self _ _).symm⟩
  | some row =>
    have hlookup : (stores db M.dbTable).lookup pk.1 = some row.chars :=
      congrArg (Option.map Row.chars) hget
    refine ⟨_, _, .found hlookup, ?_, (Function.update_eq_self _ _).symm⟩
    rw [respond, ← Framework.id_of_get hget]

theorem detailDelete_refines (M : Model) (pk : Pk) (db : Database F) :
    ViewRefines M.dbTable (.delete pk.1) db (detailDelete F M pk db) := by
  rw [detailDelete]
  cases hget : getObject F M pk db with
  | none =>
    have hlookup : (stores db M.dbTable).lookup pk.1 = none := congrArg (Option.map Row.chars) hget
    exact ⟨_, _, .deleteAbsent hlookup, rfl, (Function.update_eq_self _ _).symm⟩
  | some row =>
    have hlookup : (stores db M.dbTable).lookup pk.1 = some row.chars :=
      congrArg (Option.map Row.chars) hget
    refine ⟨_, _, .deleted hlookup, rfl, ?_⟩
    simp only [Framework.id_of_get hget]
    rw [stores_update, Framework.store_delete]
    rfl

/-- **One request.** Every view is an operation on the store it is for, unless it raises an
exception that nobody catches. -/
theorem view_refines (r : TableName × Op Pk Body) {db : Database F}
    (h : Answered db (httpRequest r)) :
    ViewRefines r.1 (r.2.mapKey Subtype.val) db
      (urlpatterns F (httpRequest r).1 (httpRequest r).2 db) := by
  match r with
  | (.denmCamDenm, .list) => exact listGet_refines denmModel db
  | (.denmCamDenm, .post body) =>
    show ViewRefines _ _ db (DenmList.post F body db)
    rw [denmList_post_of_printable F h.1]
    exact listPost_refines rfl h.2
  | (.denmCamDenm, .get pk) => exact detailGet_refines denmModel pk db
  | (.denmCamDenm, .delete pk) => exact detailDelete_refines denmModel pk db
  | (.denmCamCam, .list) => exact listGet_refines camModel db
  | (.denmCamCam, .post body) => exact listPost_refines rfl h
  | (.denmCamCam, .get pk) => exact detailGet_refines camModel pk db
  | (.denmCamCam, .delete pk) => exact detailDelete_refines camModel pk db

/-- A view that does raise one is answered with 500. -/
theorem view_of_not_answered {r : Url × Method} {db : Database F} (h : ¬ Answered db r) :
    (urlpatterns F r.1 r.2 db).1 = ⟨500, .serverError⟩ := by
  match r with
  | (.denmList, .post body) =>
    show (DenmList.post F body db).1 = _
    by_cases hprintable : Printable body
    · rw [denmList_post_of_printable F hprintable]
      exact listPost_of_not_storable rfl fun hstorable => h ⟨hprintable, hstorable⟩
    · rw [denmList_post_of_not_printable F hprintable]
  | (.camList, .post body) => exact listPost_of_not_storable rfl h
  | (.denmList, .get) | (.denmList, .delete) | (.camList, .get) | (.camList, .delete) =>
    exact absurd trivial h
  | (.denmDetail pk, _) | (.camDetail pk, _) => exact absurd trivial h

/-! ### What is accepted -/

/-- A hexadecimal digit. -/
def IsHexDigit (c : PyChar) : Prop :=
  ∃ d : Char, c = .scalar d ∧ (('0' ≤ d ∧ d ≤ '9') ∨ ('a' ≤ d ∧ d ≤ 'f') ∨ ('A' ≤ d ∧ d ≤ 'F'))

/-- A hexadecimal text of 1 to 100 characters. -/
structure HexText where
  /-- The text. -/
  chars : Text
  /-- Its characters. -/
  digits : ∀ c ∈ chars, IsHexDigit c
  /-- There is at least one. -/
  ne_nil : chars ≠ []
  /-- There are at most as many as `max_length` allows. -/
  length_le : chars.length ≤ 100

/-- The code points of the hexadecimal digits. -/
theorem IsHexDigit.exists_scalar {c : PyChar} (h : IsHexDigit c) :
    ∃ d : Char, c = .scalar d ∧ 48 ≤ d.toNat ∧ d.toNat ≤ 102 := by
  obtain ⟨d, rfl, hd⟩ := h
  have hchar : ∀ {x y : Char}, x ≤ y → x.toNat ≤ y.toNat := fun h => h
  refine ⟨d, rfl, ?_⟩
  rcases hd with ⟨h, h'⟩ | ⟨h, h'⟩ | ⟨h, h'⟩
  all_goals
    have hlow := hchar h
    have hhigh := hchar h'
    simp at hlow hhigh
    omega

theorem IsHexDigit.isSpace {c : PyChar} (h : IsHexDigit c) : c.isSpace = false := by
  obtain ⟨d, rfl, hlow, hhigh⟩ := h.exists_scalar
  simp only [PyChar.isSpace, Bool.or_eq_false_iff, Bool.and_eq_false_iff, decide_eq_false_iff_not,
    beq_eq_false_iff_ne]
  omega

theorem IsHexDigit.ne_null {c : PyChar} (h : IsHexDigit c) : c ≠ .scalar '\x00' := by
  obtain ⟨d, rfl, hlow, -⟩ := h.exists_scalar
  rintro ⟨⟩
  exact absurd hlow (by decide)

theorem IsHexDigit.isSurrogate {c : PyChar} (h : IsHexDigit c) : c.isSurrogate = false := by
  obtain ⟨d, rfl, -⟩ := h
  rfl

/-- A text of hexadecimal digits is refused only if it is empty or too long. -/
theorem isValid_of_digits (F : Framework) (f : CharField) {members : List (Text × Json)} {t : Text}
    (hmember : member members charsName = some (.string t)) (h : ∀ c ∈ t, IsHexDigit c) :
    F.isValid f (.object members) =
      if t = [] then .error (.chars [.blank])
      else if f.maxLength < t.length then .error (.chars [.maxLength]) else .ok t := by
  have hstrip : strip t = t := strip_eq_self fun c hc => (h c hc).isSpace
  have hnull : PyChar.scalar '\x00' ∉ t := fun hmem => (h _ hmem).ne_null rfl
  have hsurrogate : t.any PyChar.isSurrogate = false := by
    rw [List.any_eq_false]
    intro c hc
    rw [(h c hc).isSurrogate]
    exact Bool.false_ne_true
  exact F.isValid_text f members t hmember hstrip hnull hsurrogate

/-- A body whose member `chars` is a given text. -/
structure CharsBody (t : Text) where
  /-- The members. -/
  members : List (Text × Json)
  /-- The one that counts. -/
  member_chars : member members charsName = some (.string t)

/-- **Hexadecimal texts are accepted, and stored unchanged.** -/
theorem accept_hex (n : TableName) (t : HexText) (b : CharsBody t.chars) :
    accept F n (some (.object b.members)) = .ok t.chars := by
  have hmax : (serializer n).model.chars.maxLength = 100 := by cases n <;> rfl
  show F.isValid (serializer n).model.chars (.object b.members) = _
  rw [isValid_of_digits F _ b.member_chars t.digits, if_neg t.ne_nil, hmax,
    if_neg (Nat.not_lt.mpr t.length_le)]

/-! ### Runs -/

/-- The responses and the database after a sequence of requests are those of two stores. -/
structure RefinesStores (db : Database F) (rs : List (TableName × Op Pk Body))
    (as : List (Answer ℕ Text Errors)) : Prop where
  /-- The responses. -/
  responses : (server F).answers db (rs.map httpRequest) = as.map respond
  /-- The stores, each operation being a step of the one it is for. -/
  run : Run (accept F) (stores db) (rs.map operation) as
    (stores ((server F).after db (rs.map httpRequest)))
  /-- What happens to one of them, and is answered for it, has nothing to do with the other. -/
  independent : ∀ n, RunOne (accept F n) (stores db n) (forStore n (rs.map operation) as)
    (stores ((server F).after db (rs.map httpRequest)) n)

/-- The server implements two independent stores, each of which accepts every hexadecimal text of 1
to 100 characters, unchanged. -/
structure ImplementsStores (db : Database F) (rs : List (TableName × Op Pk Body)) : Prop where
  /-- There are answers of two stores that explain all responses, and the database. -/
  refines : ∃ as, RefinesStores db rs as
  /-- Hexadecimal texts. -/
  accepts : ∀ (n : TableName) (t : HexText) (b : CharsBody t.chars),
    accept F n (some (.object b.members)) = .ok t.chars

/-- Requests that raise no exception. -/
theorem exists_run {db : Database F} {rs : List (TableName × Op Pk Body)}
    (h : ∀ x ∈ (server F).visits db (rs.map httpRequest), Answered x.1 x.2) :
    ∃ as, (server F).answers db (rs.map httpRequest) = as.map respond ∧
      Run (accept F) (stores db) (rs.map operation) as
        (stores ((server F).after db (rs.map httpRequest))) := by
  induction rs generalizing db with
  | nil => exact ⟨[], rfl, .nil _⟩
  | cons r rs ih =>
    obtain ⟨hr, hrs⟩ := List.forall_mem_cons.mp h
    obtain ⟨a, s, hstep, hrespond, hstores⟩ := view_refines r hr
    obtain ⟨as, hanswers, hrun⟩ := ih hrs
    have hnext : stores ((server F).step db (httpRequest r)).1 =
        Function.update (stores db) r.1 s := hstores
    rw [hnext] at hrun
    refine ⟨a :: as, ?_, .cons hstep hrun⟩
    rw [List.map_cons, ServerLoop.answers_cons, hanswers, List.map_cons]
    exact congrArg (· :: _) hrespond

/-- No answer of a store is a response with status 500. -/
theorem respond_ne (a : Answer ℕ Text Errors) : respond a ≠ ⟨500, .serverError⟩ := by
  cases a <;> simp [respond]

/-- Requests that are answered as a store answers. -/
theorem answered_of_responses {db : Database F} {rs : List (Url × Method)}
    {as : List (Answer ℕ Text Errors)} (h : (server F).answers db rs = as.map respond) :
    ∀ x ∈ (server F).visits db rs, Answered x.1 x.2 := by
  induction rs generalizing db as with
  | nil => exact List.forall_mem_nil _
  | cons r rs ih =>
    cases as with
    | nil => cases h
    | cons a as =>
      obtain ⟨hr, hrs⟩ := List.cons.inj h
      refine List.forall_mem_cons.mpr ⟨?_, ih hrs⟩
      by_contra hnot
      exact respond_ne a (hr.symm.trans (view_of_not_answered hnot))

/-- **When the server is two stores.** For every database and every sequence of requests, the server
implements two independent stores exactly if no request raises an exception that nobody catches:
no string with a lone surrogate is posted to the DENM collection, and whatever a collection accepts
has no lone surrogate and comes before the largest id has been used. -/
theorem server_refines_stores_iff (db : Database F) (rs : List (TableName × Op Pk Body)) :
    ImplementsStores db rs ↔
      ∀ x ∈ (server F).visits db (rs.map httpRequest), Answered x.1 x.2 := by
  constructor
  · rintro ⟨⟨as, hresponses, -, -⟩, -⟩
    exact answered_of_responses hresponses
  · intro h
    obtain ⟨as, hanswers, hrun⟩ := exists_run h
    exact ⟨⟨as, hanswers, hrun, fun n => hrun.component n⟩, accept_hex⟩

/-- A database that has never been used. -/
def emptyDatabase : Database plainFramework := fun _ => Table.empty

/-- A lone surrogate. -/
def loneSurrogate : Text := [.surrogate 0]

/-- **Lone surrogates.** A string with a lone surrogate posted to the DENM collection is answered
with 500, while the other copy of the view refuses it; and each collection answers with 500 if the
member `chars` has one. -/
theorem surrogate_not_refused :
    ¬ ImplementsStores emptyDatabase [(.denmCamDenm, .post (some (.string loneSurrogate)))] ∧
      ImplementsStores emptyDatabase [(.denmCamCam, .post (some (.string loneSurrogate)))] ∧
      ∀ n, ¬ ImplementsStores emptyDatabase
        [(n, .post (some (.object [(charsName, .string loneSurrogate)])))] := by
  refine ⟨fun h => ?_, (server_refines_stores_iff _ _).mpr fun x hx => ?_, fun n h => ?_⟩
  · have hanswered := (server_refines_stores_iff _ _).mp h _ (List.mem_singleton_self _)
    cases hanswered.1 loneSurrogate rfl
  · rw [List.mem_singleton.mp hx]
    intro chars haccept
    cases haccept
  · have hanswered := (server_refines_stores_iff _ _).mp h _ (List.mem_singleton_self _)
    cases n with
    | denmCamDenm => cases (hanswered.2 loneSurrogate rfl).1
    | denmCamCam => cases (hanswered loneSurrogate rfl).1

end BluetoothAuto.Server
