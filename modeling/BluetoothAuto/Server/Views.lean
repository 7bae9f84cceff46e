import BluetoothAuto.Lib.ServerLoop
import BluetoothAuto.Server.RestFramework
import Mathlib.Logic.Function.Basic

/-!
# The message server

`denm_cam` keeps the messages of the cars in two models, `Denm` and `Cam`, each with one field. For
each of them there is a serializer, a view of the collection and a view of a single entry; the
views of `Cam` are a copy of those of `Denm`, but for one line: `DenmList.post` prints the data of
the request before anything else.

What both copies do is written once, with the model and the serializer as parameters. Every view
keeps its own definition, as that text applied to its own model and serializer.

An exception that a view does not catch becomes a response with status 500.

## Main definitions

* `denmModel`, `camModel`, `denmSerializer`, `camSerializer`
* `DenmList.get`, `DenmList.post`, `DenmDetail.get`, `DenmDetail.delete`, and the same of `Cam`
* `server` — requests one at a time

## Main results

* `post_string` — the two `post`s given a string
-/

namespace BluetoothAuto.Server

variable (F : Framework)

/-! ### Models and serializers -/

/-- The tables of the application. -/
inductive TableName where
  /-- The table of `Denm`. -/
  | denmCamDenm
  /-- The table of `Cam`. -/
  | denmCamCam
deriving DecidableEq

/-- The database. -/
abbrev Database := TableName → F.Table

/-- A model with the one field `chars`. -/
structure Model where
  /-- Its table. -/
  dbTable : TableName
  /-- Its field. -/
  chars : CharField

/-- `class Denm`. -/
def denmModel : Model where
  dbTable := .denmCamDenm
  chars := ⟨100⟩

/-- `class Cam`. -/
def camModel : Model where
  dbTable := .denmCamCam
  chars := ⟨100⟩

/-- A `ModelSerializer` with `fields = '__all__'`. The `id` is read-only. -/
structure ModelSerializer where
  /-- `Meta.model`. -/
  model : Model

/-- `class DenmSerializer`. -/
def denmSerializer : ModelSerializer := ⟨denmModel⟩

/-- `class CamSerializer`. -/
def camSerializer : ModelSerializer := ⟨camModel⟩

namespace ModelSerializer

/-- `is_valid()`, with the validated value of `chars` or the errors. -/
def isValid (S : ModelSerializer) : Json → Except Errors Text := F.isValid S.model.chars

/-- `save()`: the instance, and the database with it. -/
def save (S : ModelSerializer) (chars : Text) (db : Database F) : Option (Row × Database F) :=
  (F.create (db S.model.dbTable) chars).map fun created =>
    (created.1, Function.update db S.model.dbTable created.2)

end ModelSerializer

/-! ### Views -/

/-- What a response carries. A row stands for an object with the members `id` and `chars`. -/
inductive ResponseData where
  /-- Nothing. -/
  | empty
  /-- One entry. -/
  | row (r : Row)
  /-- A list of entries. -/
  | rows (rs : List Row)
  /-- `serializer.errors`, or the detail of a `ParseError`. -/
  | errors (e : Errors)
  /-- The detail of an `Http404`. -/
  | notFound
  /-- The detail of a `MethodNotAllowed`. -/
  | methodNotAllowed
  /-- The page for an exception that was not caught. -/
  | serverError

/-- A response. -/
structure Response where
  /-- The status code. -/
  status : ℕ
  /-- The data. -/
  data : ResponseData

/-- `request.data`, which raises `ParseError` if the body is not JSON. -/
def requestData : Body → Except Errors Json
  | none => .error .parseError
  | some data => .ok data

/-- `print` on a standard output in UTF-8, `none` where it raises `UnicodeEncodeError`. Only a
string is printed as it is: in a list or an object `repr` escapes the surrogates. -/
def print : Json → Option Unit
  | .string s => if s.any PyChar.isSurrogate = true then none else some ()
  | _ => some ()

/-- A primary key in a URL, within the range of an SQLite integer. -/
abbrev Pk := {n : ℕ // n < 9223372036854775808}

/-- `get` of a collection. -/
def listGet (M : Model) (db : Database F) : Response × Database F :=
  (⟨200, .rows (F.all (db M.dbTable))⟩, db)

/-- `post` of a collection, from the construction of the serializer on. -/
def validateAndSave (S : ModelSerializer) (data : Json) (db : Database F) :
    Response × Database F :=
  match S.isValid F data with
  | .ok chars =>
    match S.save F chars db with
    | some (row, db) => (⟨201, .row row⟩, db)
    | none => (⟨500, .serverError⟩, db)
  | .error e => (⟨400, .errors e⟩, db)

/-- `post` of a collection. -/
def listPost (S : ModelSerializer) (body : Body) (db : Database F) : Response × Database F :=
  match requestData body with
  | .error e => (⟨400, .errors e⟩, db)
  | .ok data => validateAndSave F S data db

/-- `get_object`, or `none` where it raises `Http404`. -/
def getObject (M : Model) (pk : Pk) (db : Database F) : Option Row := F.get (db M.dbTable) pk

/-- `get` of an entry. -/
def detailGet (M : Model) (pk : Pk) (db : Database F) : Response × Database F :=
  match getObject F M pk db with
  | none => (⟨404, .notFound⟩, db)
  | some row => (⟨200, .row row⟩, db)

/-- `delete` of an entry. -/
def detailDelete (M : Model) (pk : Pk) (db : Database F) : Response × Database F :=
  match getObject F M pk db with
  | none => (⟨404, .notFound⟩, db)
  | some row =>
    (⟨204, .empty⟩, Function.update db M.dbTable (F.delete (db M.dbTable) row.id))

namespace DenmList

/-- `DenmList.get`. -/
def get : Database F → Response × Database F := listGet F denmModel

/-- `DenmList.post`, which begins with `print(request.data)`. -/
def post (body : Body) (db : Database F) : Response × Database F :=
  match requestData body with
  | .error e => (⟨400, .errors e⟩, db)
  | .ok data =>
    match print data with
    | none => (⟨500, .serverError⟩, db)
    | some () => validateAndSave F denmSerializer data db

end DenmList

namespace DenmDetail

/-- `DenmDetail.get`. -/
def get : Pk → Database F → Response × Database F := detailGet F denmModel

/-- `DenmDetail.delete`. -/
def delete : Pk → Database F → Response × Database F := detailDelete F denmModel

end DenmDetail

namespace CamList

/-- `CamList.get`. -/
def get : Database F → Response × Database F := listGet F camModel

/-- `CamList.post`. -/
def post : Body → Database F → Response × Database F := listPost F camSerializer

end CamList

namespace CamDetail

/-- `CamDetail.get`. -/
def get : Pk → Database F → Response × Database F := detailGet F camModel

/-- `CamDetail.delete`. -/
def delete : Pk → Database F → Response × Database F := detailDelete F camModel

end CamDetail

/-- The body can be printed: it is not a string with a lone surrogate. -/
def Printable (body : Body) : Prop :=
  ∀ s, body = some (.string s) → s.any PyChar.isSurrogate = false

/-- A body that can be printed is handled as in the other copy. -/
theorem denmList_post_of_printable {body : Body} (h : Printable body) (db : Database F) :
    DenmList.post F body db = listPost F denmSerializer body db := by
  rw [DenmList.post, listPost]
  rcases body with _ | data
  · rfl
  · cases data with
    | string s =>
      have hs : ¬ s.any PyChar.isSurrogate = true := Bool.eq_false_iff.mp (h s rfl)
      simp only [requestData, print, if_neg hs]
    | _ => rfl

/-- Any other body raises an exception. -/
theorem denmList_post_of_not_printable {body : Body} (h : ¬ Printable body) (db : Database F) :
    DenmList.post F body db = (⟨500, .serverError⟩, db) := by
  rw [Printable, not_forall] at h
  obtain ⟨s, hs⟩ := h
  rw [Classical.not_imp, Bool.not_eq_false] at hs
  obtain ⟨rfl, hs⟩ := hs
  simp only [DenmList.post, requestData, print, if_pos hs]

/-- **The line that only one of the copies has.** A string is refused by both collections, except
that `DenmList.post` raises an exception if the string has a lone surrogate. -/
theorem post_string (s : Text) (db : Database F) :
    CamList.post F (some (.string s)) db = (⟨400, .errors .notADictionary⟩, db) ∧
      DenmList.post F (some (.string s)) db =
        if s.any PyChar.isSurrogate = true then (⟨500, .serverError⟩, db)
        else (⟨400, .errors .notADictionary⟩, db) := by
  have hinvalid : ∀ S, listPost F S (some (.string s)) db =
      (⟨400, .errors .notADictionary⟩, db) := by
    intro S
    rw [listPost, requestData]
    simp only [validateAndSave, ModelSerializer.isValid, F.isValid_string]
  have hprintable : Printable (some (.string s)) ↔ s.any PyChar.isSurrogate = false := by
    simp [Printable]
  refine ⟨hinvalid camSerializer, ?_⟩
  split_ifs with hs
  · exact denmList_post_of_not_printable F (fun h => by simp [hprintable.mp h] at hs) db
  · rw [denmList_post_of_printable F (hprintable.mpr (Bool.eq_false_iff.mpr hs))]
    exact hinvalid denmSerializer

/-! ### The server -/

/-- The patterns of `urlpatterns`, with what they capture. -/
inductive Url where
  /-- `messages/denm/`. -/
  | denmList
  /-- `messages/denm/<int:pk>/`. -/
  | denmDetail (pk : Pk)
  /-- `messages/cam/`. -/
  | camList
  /-- `messages/cam/<int:pk>/`. -/
  | camDetail (pk : Pk)

/-- The methods. -/
inductive Method where
  /-- `GET`. -/
  | get
  /-- `POST`, with its body. -/
  | post (body : Body)
  /-- `DELETE`. -/
  | delete

/-- `urlpatterns`, and the dispatch of `APIView` to the methods that a view defines. -/
def urlpatterns : Url → Method → Database F → Response × Database F
  | .denmList, .get => DenmList.get F
  | .denmList, .post body => DenmList.post F body
  | .denmDetail pk, .get => DenmDetail.get F pk
  | .denmDetail pk, .delete => DenmDetail.delete F pk
  | .camList, .get => CamList.get F
  | .camList, .post body => CamList.post F body
  | .camDetail pk, .get => CamDetail.get F pk
  | .camDetail pk, .delete => CamDetail.delete F pk
  | .denmList, .delete | .camList, .delete => fun db => (⟨405, .methodNotAllowed⟩, db)
  | .denmDetail _, .post _ | .camDetail _, .post _ => fun db => (⟨405, .methodNotAllowed⟩, db)

/-- The server, one request at a time. -/
def server : ServerLoop (Database F) (Url × Method) Response where
  step db r := (urlpatterns F r.1 r.2 db).swap

end BluetoothAuto.Server
