import BluetoothAuto.Server.Stores

/-!
# What the server remembers

The responses of the server, read without its database: a client that has seen all the requests and
responses of a run knows what the next ones will be. An entry is there exactly if the last response
about it was that it has been created. Requests that end in an exception leave no trace.

## Main results

* `get_answer_eq` — a `GET` of an entry answers what the history says about it
* `list_answer_iff` — a `GET` of a collection shows the entries that the history says are there
* `deleted_stays_gone` — an entry that has been deleted never comes back
-/

namespace BluetoothAuto.Server

deriving instance DecidableEq for Url

variable {F : Framework}

/-! ### What an exchange says -/

/-- The URL of a collection. -/
def listUrl : TableName → Url
  | .denmCamDenm => .denmList
  | .denmCamCam => .camList

/-- The URL of an entry. -/
def detailUrl : TableName → Pk → Url
  | .denmCamDenm, pk => .denmDetail pk
  | .denmCamCam, pk => .camDetail pk

/-- A request and its response. -/
abbrev Exchange := (Url × Method) × Response

/-- The entry that a request to a collection has created. -/
def created (n : TableName) : Exchange → Option Row
  | ((url, .post _), ⟨201, .row row⟩) => if url = listUrl n then some row else none
  | _ => none

/-- The request has deleted an entry of the collection. -/
def deletes (n : TableName) (pk : Pk) : Exchange → Bool
  | ((url, .delete), ⟨204, _⟩) => url = detailUrl n pk
  | _ => false

/-- What an exchange says about an entry: that it is there, with its text, or that it is not. -/
def saysOf (n : TableName) (pk : Pk) (x : Exchange) : Option (Option Text) :=
  match created n x with
  | some row => if row.id = pk then some (some row.chars) else none
  | none => if deletes n pk x then some none else none

/-- The text of an entry in the database. -/
def chars (n : TableName) (pk : ℕ) (db : Database F) : Option Text :=
  (F.get (db n) pk).map Row.chars

/-- What a response says, if it says nothing about the entry. -/
theorem saysOf_eq_none {n : TableName} {pk : Pk} {x : Exchange} (hc : created n x = none)
    (hd : deletes n pk x = false) : saysOf n pk x = none := by
  rw [saysOf, hc]
  simp [hd]

theorem listUrl_inj {m n : TableName} : listUrl m = listUrl n ↔ m = n := by
  cases m <;> cases n <;> simp [listUrl]

theorem detailUrl_inj {m n : TableName} {pk pk' : Pk} :
    detailUrl m pk = detailUrl n pk' ↔ m = n ∧ pk = pk' := by
  cases m <;> cases n <;> simp [detailUrl]

/-- `post` of a collection, with its exchange. -/
theorem chars_listPost (S : ModelSerializer) (n : TableName) (pk : Pk) (db : Database F)
    (body : Body) :
    chars n pk (listPost F S body db).2 =
      (saysOf n pk ((listUrl S.model.dbTable, .post body), (listPost F S body db).1)).getD
        (chars n pk db) := by
  rw [listPost_eq]
  split
  · rw [saysOf_eq_none (by rfl) (by rfl)]
    rfl
  · next text _ =>
    split
    · rw [saysOf_eq_none (by rfl) (by rfl)]
      rfl
    · next row t hcreate =>
      rw [saysOf, created]
      simp only [listUrl_inj]
      by_cases hn : S.model.dbTable = n
      · subst hn
        rw [if_pos rfl, chars, Function.update_self, F.get_create _ _ _ _ hcreate]
        by_cases hpk : pk.1 = row.id
        · simp [hpk]
        · simp [hpk, Ne.symm hpk, chars]
      · rw [if_neg hn, chars, Function.update_of_ne (Ne.symm hn)]
        rfl

/-- The `post` that prints, with its exchange. -/
theorem chars_denmList_post (n : TableName) (pk : Pk) (db : Database F) (body : Body) :
    chars n pk (DenmList.post F body db).2 =
      (saysOf n pk ((.denmList, .post body), (DenmList.post F body db).1)).getD
        (chars n pk db) := by
  by_cases hprintable : Printable body
  · rw [denmList_post_of_printable F hprintable]
    exact chars_listPost denmSerializer n pk db body
  · rw [denmList_post_of_not_printable F hprintable, saysOf_eq_none (by rfl) (by rfl)]
    rfl

/-- `delete` of an entry, with its exchange. -/
theorem chars_detailDelete (M : Model) (n : TableName) (pk pk' : Pk) (db : Database F) :
    chars n pk (detailDelete F M pk' db).2 =
      (saysOf n pk ((detailUrl M.dbTable pk', .delete), (detailDelete F M pk' db).1)).getD
        (chars n pk db) := by
  rw [detailDelete]
  cases hget : getObject F M pk' db with
  | none =>
    rw [saysOf_eq_none (by rfl) (by rfl)]
    rfl
  | some row =>
    rw [saysOf]
    simp only [created, deletes, detailUrl_inj, Framework.id_of_get hget]
    by_cases hn : M.dbTable = n
    · subst hn
      rw [chars, Function.update_self, F.get_delete]
      by_cases hpk : pk' = pk
      · subst hpk
        simp
      · have hne : ¬ pk.1 = pk'.1 := fun h => hpk (Subtype.ext h.symm)
        simp [hpk, hne, chars]
    · rw [chars, Function.update_of_ne (Ne.symm hn)]
      simp [hn, chars]

/-- A view that only reads. -/
theorem detailGet_snd (M : Model) (pk : Pk) (db : Database F) : (detailGet F M pk db).2 = db := by
  rw [detailGet]
  split <;> rfl

/-- **One request.** It changes an entry exactly as the exchange says. -/
theorem chars_step (n : TableName) (pk : Pk) (db : Database F) (r : Url × Method) :
    chars n pk ((server F).step db r).1 =
      (saysOf n pk (r, ((server F).step db r).2)).getD (chars n pk db) := by
  obtain ⟨url, method⟩ := r
  cases method with
  | get =>
    rw [saysOf_eq_none (by rfl) (by rfl), Option.getD_none]
    cases url with
    | denmDetail pk' => exact congrArg (chars n pk) (detailGet_snd denmModel pk' db)
    | camDetail pk' => exact congrArg (chars n pk) (detailGet_snd camModel pk' db)
    | _ => rfl
  | post body =>
    cases url with
    | denmList => exact chars_denmList_post n pk db body
    | camList => exact chars_listPost camSerializer n pk db body
    | _ => rfl
  | delete =>
    cases url with
    | denmDetail pk' => exact chars_detailDelete denmModel n pk pk' db
    | camDetail pk' => exact chars_detailDelete camModel n pk pk' db
    | _ => rfl

/-! ### Whole runs -/

/-- What a run says about an entry, which was `before` the run. -/
def charsAfter (n : TableName) (pk : Pk) (before : Option Text) (history : List Exchange) :
    Option Text :=
  (history.filterMap (saysOf n pk)).getLast?.getD before

/-- **The entries after a run** are those that the last exchanges about them say are there. -/
theorem chars_after (n : TableName) (pk : Pk) (db : Database F) (rs : List (Url × Method)) :
    chars n pk ((server F).after db rs) =
      charsAfter n pk (chars n pk db) ((server F).exchanges db rs) :=
  (server F).get_after (chars_step n pk) db rs

/-- **A `GET` of an entry answers what the history says.** After every sequence of requests, to
either collection and with whatever methods and bodies, the response is the entry with the text of
the last exchange about it, if that has created it, and 404 if that has deleted it; an entry that
no exchange is about is as it was before. -/
theorem get_answer_eq (n : TableName) (pk : Pk) (db : Database F) (rs : List (Url × Method)) :
    ((server F).step ((server F).after db rs) (detailUrl n pk, .get)).2 =
      match charsAfter n pk (chars n pk db) ((server F).exchanges db rs) with
      | some text => ⟨200, .row ⟨pk, text⟩⟩
      | none => ⟨404, .notFound⟩ := by
  rw [← chars_after]
  have hget : ∀ M : Model, M.dbTable = n → (detailGet F M pk ((server F).after db rs)).1 =
      match chars n pk ((server F).after db rs) with
      | some text => ⟨200, .row ⟨pk, text⟩⟩
      | none => ⟨404, .notFound⟩ := by
    rintro M rfl
    rw [detailGet, chars, getObject]
    cases hrow : F.get ((server F).after db rs M.dbTable) pk.1 with
    | none => rfl
    | some row =>
      rw [← Framework.id_of_get hrow]
      rfl
  cases n with
  | denmCamDenm => exact hget denmModel rfl
  | denmCamCam => exact hget camModel rfl

/-- **A `GET` of a collection answers what the history says.** After every sequence of requests, the
response has an entry exactly if the last exchange about it has created it, or no exchange is about
it and it was there before, with the text that it had then; and no entry is shown twice. -/
theorem list_answer_iff (n : TableName) (db : Database F) (rs : List (Url × Method)) :
    ∃ rows, ((server F).step ((server F).after db rs) (listUrl n, .get)).2 = ⟨200, .rows rows⟩ ∧
      (rows.map Row.id).Nodup ∧
      ∀ (pk : Pk) (text : Text), (⟨pk, text⟩ : Row) ∈ rows ↔
        charsAfter n pk (chars n pk db) ((server F).exchanges db rs) = some text := by
  refine ⟨F.all ((server F).after db rs n), by cases n <;> rfl, F.nodup_all _, ?_⟩
  intro pk text
  rw [← chars_after, chars, Option.map_eq_some_iff]
  constructor
  · intro hmem
    exact ⟨⟨pk, text⟩, (F.get_eq_some_iff _ pk.1 _).mpr ⟨hmem, rfl⟩, rfl⟩
  · rintro ⟨row, hrow, rfl⟩
    obtain ⟨hmem, hid⟩ := (F.get_eq_some_iff _ pk.1 row).mp hrow
    rwa [← hid]

/-! ### Deleted entries -/

/-- `post` of a collection uses no id again. -/
theorem used_listPost (S : ModelSerializer) (n : TableName) (db : Database F) (body : Body) :
    F.used (db n) ⊆ F.used ((listPost F S body db).2 n) ∧
      ∀ row ∈ created n ((listUrl S.model.dbTable, .post body), (listPost F S body db).1),
        row.id ∉ F.used (db n) := by
  rw [listPost_eq]
  split
  · exact ⟨subset_rfl, by simp [created]⟩
  · next text _ =>
    split
    · exact ⟨subset_rfl, by simp [created]⟩
    · next row t hcreate =>
      simp only [created, listUrl_inj]
      by_cases hn : S.model.dbTable = n
      · subst hn
        rw [Function.update_self, F.used_create _ _ _ _ hcreate, if_pos rfl]
        refine ⟨Set.subset_insert _ _, ?_⟩
        rintro row' ⟨⟩
        exact F.id_create _ _ _ _ hcreate
      · simp [hn, Function.update_of_ne (Ne.symm hn)]

theorem used_detailDelete (M : Model) (n : TableName) (pk : Pk) (db : Database F) :
    F.used ((detailDelete F M pk db).2 n) = F.used (db n) := by
  rw [detailDelete]
  split
  · rfl
  · next row _ =>
    show F.used (Function.update db M.dbTable (F.delete (db M.dbTable) row.id) n) = _
    by_cases hn : M.dbTable = n
    · subst hn
      rw [Function.update_self, F.used_delete]
    · rw [Function.update_of_ne (Ne.symm hn)]

/-- **One request.** A used id stays used, and no entry gets one. -/
theorem used_step (n : TableName) (db : Database F) (r : Url × Method) :
    F.used (db n) ⊆ F.used (((server F).step db r).1 n) ∧
      ∀ row ∈ created n (r, ((server F).step db r).2), row.id ∉ F.used (db n) := by
  have hread : ∀ (M : Model) (pk : Pk),
      F.used (db n) ⊆ F.used ((detailGet F M pk db).2 n) := fun M pk => by rw [detailGet_snd]
  have hdelete : ∀ (M : Model) (pk : Pk),
      F.used (db n) ⊆ F.used ((detailDelete F M pk db).2 n) := fun M pk =>
    (used_detailDelete M n pk db).ge
  obtain ⟨url, method⟩ := r
  cases method with
  | get =>
    cases url with
    | denmDetail pk => exact ⟨hread denmModel pk, by simp [created]⟩
    | camDetail pk => exact ⟨hread camModel pk, by simp [created]⟩
    | _ => exact ⟨subset_rfl, by simp [created]⟩
  | post body =>
    cases url with
    | denmList =>
      show F.used (db n) ⊆ F.used ((DenmList.post F body db).2 n) ∧
        ∀ row ∈ created n ((.denmList, .post body), (DenmList.post F body db).1), _
      by_cases hprintable : Printable body
      · rw [denmList_post_of_printable F hprintable]
        exact used_listPost denmSerializer n db body
      · rw [denmList_post_of_not_printable F hprintable]
        exact ⟨subset_rfl, by simp [created]⟩
    | camList => exact used_listPost camSerializer n db body
    | denmDetail pk => exact ⟨subset_rfl, by simp [created, server, urlpatterns]⟩
    | camDetail pk => exact ⟨subset_rfl, by simp [created, server, urlpatterns]⟩
  | delete =>
    cases url with
    | denmDetail pk => exact ⟨hdelete denmModel pk, by simp [created]⟩
    | camDetail pk => exact ⟨hdelete camModel pk, by simp [created]⟩
    | _ => exact ⟨subset_rfl, by simp [created]⟩

/-- The id was used, and its entry is not there any more. -/
structure Gone (n : TableName) (pk : Pk) (db : Database F) : Prop where
  /-- It was used. -/
  used : pk.1 ∈ F.used (db n)
  /-- It is not there. -/
  absent : chars n pk db = none

/-- No request brings an entry back. -/
theorem Gone.step {n : TableName} {pk : Pk} {db : Database F} (h : Gone n pk db)
    (r : Url × Method) : Gone n pk ((server F).step db r).1 := by
  obtain ⟨hsub, hgiven⟩ := used_step n db r
  refine ⟨hsub h.used, ?_⟩
  rw [chars_step, saysOf]
  cases hc : created n (r, ((server F).step db r).2) with
  | none =>
    simp only [h.absent]
    split <;> rfl
  | some row =>
    have hne : row.id ≠ pk.1 := fun heq => hgiven row hc (heq ▸ h.used)
    simp [hne, h.absent]

/-- An exchange that is not for an entry, or answers that it is not there. -/
def AnswersAbsent (n : TableName) (pk : Pk) (x : Exchange) : Prop :=
  x.1 = (detailUrl n pk, .get) ∨ x.1 = (detailUrl n pk, .delete) → x.2 = ⟨404, .notFound⟩

theorem Gone.answersAbsent {n : TableName} {pk : Pk} {db : Database F} (h : Gone n pk db)
    (r : Url × Method) : AnswersAbsent n pk (r, ((server F).step db r).2) := by
  have hget : ∀ M : Model, M.dbTable = n → getObject F M pk db = none := by
    rintro M rfl
    exact Option.map_eq_none_iff.mp h.absent
  have hdetail : ∀ M : Model, M.dbTable = n → (detailGet F M pk db).1 = ⟨404, .notFound⟩ ∧
      (detailDelete F M pk db).1 = ⟨404, .notFound⟩ := by
    intro M hM
    rw [detailGet, detailDelete, hget M hM]
    exact ⟨rfl, rfl⟩
  rintro (rfl | rfl)
  · cases n with
    | denmCamDenm => exact (hdetail denmModel rfl).1
    | denmCamCam => exact (hdetail camModel rfl).1
  · cases n with
    | denmCamDenm => exact (hdetail denmModel rfl).2
    | denmCamCam => exact (hdetail camModel rfl).2

/-- An entry is gone once a request has deleted it. -/
theorem gone_of_deletes {n : TableName} {pk : Pk} {db : Database F} {r : Url × Method}
    (h : deletes n pk (r, ((server F).step db r).2) = true) :
    Gone n pk ((server F).step db r).1 := by
  have hdelete : ∀ M : Model, M.dbTable = n → (detailDelete F M pk db).1.status = 204 →
      Gone n pk (detailDelete F M pk db).2 := by
    rintro M rfl hstatus
    refine ⟨?_, ?_⟩
    · rw [used_detailDelete]
      cases hget : getObject F M pk db with
      | none => simp [detailDelete, hget] at hstatus
      | some row =>
        rw [← Framework.id_of_get hget]
        exact F.used_of_mem _ row ((F.get_eq_some_iff _ pk.1 row).mp hget).1
    · rw [chars_detailDelete]
      cases hget : getObject F M pk db with
      | none => simp [detailDelete, hget] at hstatus
      | some row => simp [detailDelete, hget, saysOf, created, deletes]
  obtain ⟨url, method⟩ := r
  cases method with
  | delete =>
    generalize hresponse : ((server F).step db (url, .delete)).2 = response at h
    obtain ⟨status, data⟩ := response
    have hstatus : status = 204 ∧ url = detailUrl n pk := by
      unfold deletes at h
      split at h
      · next heq =>
        cases heq
        exact ⟨rfl, of_decide_eq_true h⟩
      · cases h
    obtain ⟨rfl, rfl⟩ := hstatus
    cases n with
    | denmCamDenm => exact hdelete denmModel rfl (congrArg Response.status hresponse)
    | denmCamCam => exact hdelete camModel rfl (congrArg Response.status hresponse)
  | _ => cases h

/-- **What has been deleted stays away.** In every run, once a request has deleted an entry, every
later `GET` or `DELETE` of its URL is answered with 404, whatever has been created in between. -/
theorem deleted_stays_gone (n : TableName) (pk : Pk) (db : Database F) (rs : List (Url × Method)) :
    ((server F).exchanges db rs).Pairwise fun x y =>
      deletes n pk x = true → AnswersAbsent n pk y := by
  induction rs generalizing db with
  | nil => exact .nil
  | cons r rs ih =>
    rw [ServerLoop.exchanges_cons]
    refine List.pairwise_cons.mpr ⟨fun y hy hdel => ?_, ih _⟩
    have hanswers : List.Forall₂ (fun r a => AnswersAbsent n pk (r, a)) rs
        ((server F).answers ((server F).step db r).1 rs) :=
      ServerLoop.forall₂_answers_of_invariant (V := fun _ => True) (fun _ r h _ => h.step r)
        (fun _ r h _ => h.answersAbsent r) (gone_of_deletes hdel) (fun _ _ => trivial)
    exact (List.forall₂_iff_zip.mp hanswers).2 hy

end BluetoothAuto.Server
