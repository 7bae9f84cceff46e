import BluetoothAuto.App.RequestTasks
import BluetoothAuto.Server.AppMessages

/-!
# The app as a client of the message server

The two tasks of the app send their requests to the message server, which other clients use as well.
A click on the `POST` button sends a frame to `messages/cam/`, a click on the `GET` button asks for
both collections and shows what has come. Here the tasks run against the server: the status that
`httpPost` prints and the bytes that `readFully` collects are those of its responses.

The network may keep a request from the server, cut its body short, and keep the response from the
app or cut it short. The JSON of Django REST framework is a parameter, as is the framework itself.

## Main results

* `uploads_invisible` — the other clients do not notice the app
* `uploads_refused` — no upload is accepted, and each of them returns "POST successful"
* `downloads_show` — what a download shows
-/

namespace BluetoothAuto.AppClient

open App App.HttpsWithCertificate App.MainActivity Server Utf16 Utf8

variable {F : Framework}

/-! ### Bodies -/

/-- The digits of a frame. -/
def hexChars (f : List UInt8) : List Char :=
  f.flatMap fun b => [hexDigit (highNibble b), hexDigit (lowNibble b)]

/-- The characters of `postData.toString()`. -/
def postChars (f : List UInt8) : List Char :=
  ['{', '"', 'd', 'a', 't', 'a', '"', ':', '"'] ++ hexChars f ++ ['"', '}']

/-- `postData.toString()`, which is the parameter of `SendDeviceDetails`. -/
def postData (f : List UInt8) : JString := (postChars f).flatMap units

/-- The JSON of Django REST framework. -/
structure RestJson where
  /-- `JSONParser`: `none` where it raises `ParseError`. -/
  parse : List UInt8 → Body
  /-- `JSONRenderer`. -/
  render : ResponseData → List UInt8
  /-- A body of the app is read as it was built. -/
  parse_postData : ∀ f, parse (encode (postData f)) = formBody dataName f
  /-- An object that is cut short is not JSON. -/
  parse_prefix : ∀ f bs, bs <+: encode (postData f) → bs ≠ encode (postData f) → parse bs = none

/-! ### The network -/

/-- What the platform and the network do to a request, as far as the server has no part in it. -/
structure Line where
  url : Except Exception Unit
  openConnection : Except Exception Bool
  configure : Except Exception Unit
  getOutputStream : Except Exception (Option OutputStream)
  /-- What reaches the server of a body; `none` if the request does not. -/
  arrives : List UInt8 → Option (List UInt8)
  arrives_prefix : ∀ bs bs', arrives bs = some bs' → bs' <+: bs
  /-- `getInputStream` for a response with these bytes. -/
  getInputStream : List UInt8 → Except Exception (Option InputStream)
  /-- A stream that ends has delivered the response. -/
  delivers : ∀ bs S, getInputStream bs = .ok (some S) → S.failure = none → S.bytes = bs
  /-- Whether `getResponseCode` throws although the server has answered. -/
  getResponseCode : Except Exception Unit
  getResponseMessage : Except Exception Unit

/-- The connection of a request that the server has answered, or that has not reached it. -/
def Line.connection (J : RestJson) (l : Line) (response : Option Response) : Connection where
  url := l.url
  openConnection := l.openConnection
  configure := l.configure
  getOutputStream := l.getOutputStream
  getInputStream :=
    match response with
    | none => .error .io
    | some r => l.getInputStream (J.render r.data)
  getResponseCode :=
    match response with
    | none => .error .io
    | some r => l.getResponseCode.map fun _ => r.status
  getResponseMessage := l.getResponseMessage

/-! ### The clients -/

/-- A click on the `POST` button. -/
structure Upload where
  setup : Setup
  line : Line
  /-- The frame, as bytes. -/
  frame : List UInt8

/-- A click on the `GET` button. -/
structure Download where
  setup : Setup
  cam : Line
  /-- The requests of other clients that the server handles between the two requests of the task. -/
  between : List (Url × Method)
  denm : Line

/-- What the clients of the server do. -/
inductive Event where
  | upload (u : Upload)
  | download (d : Download)
  /-- The request of another client. -/
  | other (r : Url × Method)

/-- What comes of it. -/
structure Answer where
  /-- What the task of the app leaves. -/
  outcome : Option Outcome
  /-- The responses to the other clients. -/
  responses : List Response

/-- The task of an upload, with the answer of the (server F). -/
def Upload.task (J : RestJson) (u : Upload) (response : Option Response) : PostTask where
  setup := u.setup
  params := [some (literal "https://paf-communications-bluetooth.online/messages/cam/"),
    some (postData u.frame)]
  connection := u.line.connection J response

/-- What the server receives of an upload. There is no request before its headers have been set, and
the body is written before the answer is asked for. -/
def Upload.received (J : RestJson) (u : Upload) (s : Statics) : Option (List UInt8) :=
  match (SendDeviceDetails.doInBackground s (u.task J none)).2.exchanges with
  | [x] => if x.requestProperties = [] then none else u.line.arrives x.body
  | _ => none

/-- The task of a download, with the answers of the (server F). -/
def Download.task (J : RestJson) (d : Download) (cam denm : Response) : GetTask where
  setup := d.setup
  cam := d.cam.connection J (some cam)
  denm := d.denm.connection J (some denm)

/-- An upload. -/
def Upload.run (J : RestJson) (u : Upload) (s : Statics × Database F) :
    (Statics × Database F) × Answer :=
  let handled := (u.received J s.1).map fun bs => (server F).step s.2 (.camList, .post (J.parse bs))
  let done := SendDeviceDetails.doInBackground s.1 (u.task J (handled.map Prod.snd))
  ((done.1, (handled.map Prod.fst).getD s.2), ⟨some done.2, []⟩)

/-- A download. Whether its requests reach the server or not makes no difference to the server. -/
def Download.run (J : RestJson) (D : Decoder) (d : Download) (s : Statics × Database F) :
    (Statics × Database F) × Answer :=
  let cam := (server F).step s.2 (.camList, .get)
  let db := (server F).after cam.1 d.between
  let denm := (server F).step db (.denmList, .get)
  let done := SendGetRequest.doInBackground D s.1 (d.task J cam.2 denm.2)
  ((done.1, denm.1), ⟨some done.2, (server F).answers cam.1 d.between⟩)

/-- The app and the other clients of the (server F). -/
def clients (F : Framework) (J : RestJson) (D : Decoder) :
    ServerLoop (Statics × Database F) Event Answer where
  step s e :=
    match e with
    | .upload u => u.run J s
    | .download d => d.run J D s
    | .other r => ((s.1, ((server F).step s.2 r).1), ⟨none, [((server F).step s.2 r).2]⟩)

/-- The requests of the other clients. -/
def Event.requests : Event → List (Url × Method)
  | .upload _ => []
  | .download d => d.between
  | .other r => [r]

/-! ### Uploads -/

/-- A stream takes a prefix of what is written. -/
theorem writeFully_prefix (outputStream : Option OutputStream) (data : JString) :
    (writeFully outputStream data).1 <+: encode data := by
  rcases outputStream with _ | o
  · exact List.nil_prefix
  · show (o.write (encode data)).1 <+: encode data
    rw [OutputStream.write]
    rcases o.failure with _ | ⟨taken, e⟩
    · exact List.prefix_rfl
    · exact List.take_prefix taken _

/-- What an exchange records: the body as far as the connection took it, and the status that
`getResponseCode` has returned. -/
theorem httpPost_records (sslContext : Option SslContext) (c : Connection) (data : JString) :
    (httpPost sslContext c (some data)).body <+: encode data ∧
      ∀ code, (httpPost sslContext c (some data)).responseCode = some code →
        c.getResponseCode = .ok code := by
  rcases connect_spec sslContext c {} with ⟨-, hconn⟩ | ⟨-, e, hconn⟩
  · rw [httpPost_of_connects hconn]
    rcases hout : c.getOutputStream with e | o
    · rw [exchanged_of_error hout]
      exact ⟨List.nil_prefix, nofun⟩
    · have hwritten := writeFully_prefix o data
      rcases hwrite : writeFully o data with ⟨bytes, _ | e⟩
      · rw [exchanged_of_written hout hwrite]
        rw [hwrite] at hwritten
        refine ⟨hwritten, fun code hcode => ?_⟩
        rcases hget : c.getResponseCode with e | code'
        · rw [hget] at hcode
          cases hcode
        · rw [hget] at hcode
          exact congrArg Except.ok (Option.some.inj hcode)
      · rw [exchanged_of_thrown hout hwrite]
        rw [hwrite] at hwritten
        exact ⟨hwritten, nofun⟩
  · rw [httpPost_of_error hconn]
    exact ⟨List.nil_prefix, nofun⟩

/-- The task of an upload: its constructor throws, or there is one exchange. -/
theorem doInBackground_upload (J : RestJson) (u : Upload) (s : Statics)
    (response : Option Response) :
    (Escapes s u.setup ∧ ∃ e s',
        SendDeviceDetails.doInBackground s (u.task J response) = (s', { result := .error e })) ∨
      ∃ ctx s', SendDeviceDetails.doInBackground s (u.task J response) =
        (s', { result := .ok postSuccessful,
               exchanges := [httpPost ctx (u.line.connection J response)
                 (some (postData u.frame))] }) := by
  rcases hc : construct s u.setup with ⟨_ | e, s'⟩
  · refine .inr ⟨s'.sslContext, s', ?_⟩
    rw [SendDeviceDetails.doInBackground, show construct s (u.task J response).setup = _ from hc]
    rfl
  · refine .inl ⟨?_, e, s', ?_⟩
    · by_contra hesc
      have hnone := (construct_spec s u.setup).1.mpr hesc
      rw [hc] at hnone
      cases hnone
    · rw [SendDeviceDetails.doInBackground, show construct s (u.task J response).setup = _ from hc]

/-- What reaches the server is a prefix of the body. -/
theorem prefix_of_received {J : RestJson} {u : Upload} {s : Statics} {bs : List UInt8}
    (h : u.received J s = some bs) : bs <+: encode (postData u.frame) := by
  rw [Upload.received] at h
  obtain ⟨-, e, s', hdone⟩ | ⟨ctx, s', hdone⟩ := doInBackground_upload J u s none
  · rw [hdone] at h
    cases h
  · rw [hdone] at h
    obtain ⟨-, harrives⟩ := Option.ite_none_left_eq_some.mp h
    exact (u.line.arrives_prefix _ _ harrives).trans (httpPost_records ctx _ _).1

/-- **A body of the app is refused**, in full or cut short, and changes nothing. -/
theorem body_refused (J : RestJson) (db : Database F) {f bs : List UInt8}
    (h : bs <+: encode (postData f)) :
    ∃ e, (server F).step db (.camList, .post (J.parse bs)) = (db, ⟨400, .errors e⟩) := by
  have hrefused : ∀ body e, accept F .denmCamCam body = .error e →
      (server F).step db (.camList, .post body) = (db, ⟨400, .errors e⟩) := by
    intro body e haccept
    show (CamList.post F body db).swap = _
    rw [camList_post_eq, haccept]
    rfl
  by_cases hall : bs = encode (postData f)
  · refine ⟨_, hrefused _ (.chars [.required]) ?_⟩
    rw [hall, J.parse_postData, accept_formBody, if_neg (by decide)]
  · refine ⟨_, hrefused _ .parseError ?_⟩
    rw [J.parse_prefix f bs h hall]
    rfl

/-- **What an upload does**: its task runs, and if the server answers at all, it refuses the body
and stays as it is. -/
theorem upload_run (J : RestJson) (u : Upload) (s : Statics × Database F) :
    ∃ response : Option Response, (∀ r ∈ response, r.status = 400) ∧
      u.run J s =
        (((SendDeviceDetails.doInBackground s.1 (u.task J response)).1, s.2),
          ⟨some (SendDeviceDetails.doInBackground s.1 (u.task J response)).2, []⟩) := by
  rw [Upload.run]
  rcases hbs : u.received J s.1 with _ | bs
  · exact ⟨none, nofun, rfl⟩
  · obtain ⟨e, he⟩ := body_refused J s.2 (prefix_of_received hbs)
    refine ⟨some ⟨400, .errors e⟩, ?_, ?_⟩
    · rintro r ⟨⟩
      rfl
    · simp only [Option.map_some, Option.getD_some, he]

/-- The answer to an upload: unless an exception leaves the constructor, the task returns "POST
successful", and any status that has come back is 400. -/
def Refused : Event → Answer → Prop
  | .upload u, a => ∃ o, a = ⟨some o, []⟩ ∧
      ((∀ step e, u.setup.failure = some (step, e) → caught e = true) →
        o.result = .ok postSuccessful) ∧
      ∀ x ∈ o.exchanges, ∀ code, x.responseCode = some code → code = 400
  | _, _ => True

theorem refused_step (J : RestJson) (D : Decoder) (s : Statics × Database F) (e : Event) :
    Refused e ((clients F J D).step s e).2 := by
  rcases e with u | d | r
  · obtain ⟨response, hstatus, hrun⟩ := upload_run J u s
    show Refused (.upload u) (u.run J s).2
    rw [hrun]
    refine ⟨_, rfl, ?_⟩
    obtain ⟨⟨-, step, e, hf, hnot⟩, e', s', hdone⟩ | ⟨ctx, s', hdone⟩ :=
      doInBackground_upload J u s.1 response
    · rw [hdone]
      refine ⟨fun hcaught => ?_, List.forall_mem_nil _⟩
      exact absurd ((hcaught step e hf).symm.trans hnot) (by decide)
    · rw [hdone]
      refine ⟨fun _ => rfl, List.forall_mem_singleton.mpr fun code hcode => ?_⟩
      have hget := (httpPost_records ctx _ _).2 code hcode
      rcases response with _ | r
      · cases hget
      · have hmap : u.line.getResponseCode.map (fun _ => (r.status : ℤ)) = .ok code := hget
        rcases hline : u.line.getResponseCode with e | _
        · rw [hline] at hmap
          cases hmap
        · rw [hline] at hmap
          rw [← Except.ok.inj hmap, hstatus r rfl]
          rfl
  · trivial
  · trivial

/-- **No upload is accepted.** In every run of the clients, whatever frames are uploaded, whatever
the database holds and whatever the network does to the requests: the server answers an upload with
400 or not at all, and the task returns "POST successful" all the same. -/
theorem uploads_refused (J : RestJson) (D : Decoder) (s : Statics × Database F) (es : List Event) :
    List.Forall₂ Refused es ((clients F J D).answers s es) :=
  ServerLoop.forall₂_answers (refused_step J D) s es

/-! ### The other clients -/

/-- What an event does to the server, and shows to the other clients: what their requests do. -/
theorem hidden_step (J : RestJson) (D : Decoder) (s : Statics × Database F) (e : Event) :
    ((clients F J D).step s e).1.2 = (server F).after s.2 e.requests ∧
      ((clients F J D).step s e).2.responses = (server F).answers s.2 e.requests := by
  rcases e with u | d | r
  · obtain ⟨response, -, hrun⟩ := upload_run J u s
    show (u.run J s).1.2 = s.2 ∧ (u.run J s).2.responses = []
    rw [hrun]
    exact ⟨rfl, rfl⟩
  · exact ⟨rfl, rfl⟩
  · exact ⟨rfl, rfl⟩

/-- The database is as it would be without the app. -/
theorem database_after (J : RestJson) (D : Decoder) (s : Statics × Database F) (es : List Event) :
    ((clients F J D).after s es).2 = (server F).after s.2 (es.flatMap Event.requests) :=
  ((clients F J D).flatMap_answers Prod.snd Answer.responses
    (fun s e => (hidden_step J D s e).1)
    (fun s e => (hidden_step J D s e).2) s es).1

/-- **The other clients do not notice the app.** In every run, the database is as it would be
without the app, and so are the responses to the other clients. -/
theorem uploads_invisible (J : RestJson) (D : Decoder) (s : Statics × Database F)
    (es : List Event) :
    ((clients F J D).after s es).2 = (server F).after s.2 (es.flatMap Event.requests) ∧
      ((clients F J D).answers s es).flatMap Answer.responses =
        (server F).answers s.2 (es.flatMap Event.requests) :=
  (clients F J D).flatMap_answers Prod.snd Answer.responses (fun s e => (hidden_step J D s e).1)
    (fun s e => (hidden_step J D s e).2) s es

/-! ### A reader of the bodies of the app -/

/-- The bytes before the digits. -/
def opening : List UInt8 := [0x7b, 0x22, 0x64, 0x61, 0x74, 0x61, 0x22, 0x3a, 0x22]

/-- The characters of a string without escapes that ends an object. -/
def parseString : List UInt8 → Option (List Char)
  | [] => none
  | b :: bs =>
    if b = 0x22 then if bs = [0x7d] then some [] else none
    else (parseString bs).map (Char.ofNat b.toNat :: ·)

/-- An object with the one member `data`, whose value is a string without escapes. -/
def parsePost (bs : List UInt8) : Body :=
  if bs.take opening.length = opening then
    (parseString (bs.drop opening.length)).map fun cs => .object [(dataName, .string (text cs))]
  else none

/-- The halves of the bytes of a frame. -/
def nibbles (f : List UInt8) : List (Fin 16) := f.flatMap fun b => [highNibble b, lowNibble b]

/-- The byte of a digit. -/
def digitByte (n : Fin 16) : UInt8 := (hexDigit n).toNat.toUInt8

/-- The bytes from the digits on. -/
def closing (ns : List (Fin 16)) : List UInt8 := ns.map digitByte ++ [0x22, 0x7d]

theorem hexChars_eq (f : List UInt8) : hexChars f = (nibbles f).map hexDigit := by
  rw [hexChars, nibbles, List.map_flatMap]
  rfl

theorem hexText_eq (f : List UInt8) : hexText f = text (hexChars f) := by
  rw [hexText, hexChars, text, List.map_flatMap]
  rfl

theorem utf8EncodeChar_hexDigit (n : Fin 16) :
    String.utf8EncodeChar (hexDigit n) = [digitByte n] := by
  revert n
  decide

/-- A digit is one byte. -/
theorem encode_hexDigits (ns : List (Fin 16)) :
    (ns.map hexDigit).flatMap String.utf8EncodeChar = ns.map digitByte := by
  induction ns with
  | nil => rfl
  | cons n ns ih =>
    rw [List.map_cons, List.flatMap_cons, ih, utf8EncodeChar_hexDigit, List.map_cons]
    rfl

/-- The bytes of a body of the app. -/
theorem encode_postData (f : List UInt8) :
    encode (postData f) = opening ++ closing (nibbles f) := by
  have hitems : ∀ cs : List Char, (cs.map Item.char).flatMap encodeItem =
      cs.flatMap String.utf8EncodeChar := List.flatMap_map Item.char encodeItem
  have hopening : ['{', '"', 'd', 'a', 't', 'a', '"', ':', '"'].flatMap String.utf8EncodeChar =
      opening := by decide
  have hclosing : ['"', '}'].flatMap String.utf8EncodeChar = [0x22, 0x7d] := by decide
  rw [encode, postData, items_flatMap_units, hitems, postChars, List.flatMap_append,
    List.flatMap_append, hopening, hclosing, hexChars_eq, encode_hexDigits, closing,
    List.append_assoc]

theorem digitByte_ne_quote (n : Fin 16) : digitByte n ≠ 0x22 := by
  revert n
  decide

theorem ofNat_digitByte (n : Fin 16) : Char.ofNat (digitByte n).toNat = hexDigit n := by
  revert n
  decide

theorem parseString_closing (ns : List (Fin 16)) :
    parseString (closing ns) = some (ns.map hexDigit) := by
  induction ns with
  | nil => rfl
  | cons n ns ih =>
    show parseString (digitByte n :: closing ns) = _
    rw [parseString, if_neg (digitByte_ne_quote n), ih, ofNat_digitByte]
    rfl

/-- A string that is cut short has no end. -/
theorem parseString_prefix {ns : List (Fin 16)} {bs : List UInt8} (h : bs <+: closing ns)
    (hne : bs ≠ closing ns) : parseString bs = none := by
  induction ns generalizing bs with
  | nil =>
    rcases bs with _ | ⟨b, bs⟩
    · rfl
    · obtain ⟨rfl, h⟩ := List.cons_prefix_cons.mp h
      rw [parseString, if_pos rfl, if_neg]
      rintro rfl
      exact hne rfl
  | cons n ns ih =>
    rcases bs with _ | ⟨b, bs⟩
    · rfl
    · have hcons : b :: bs <+: digitByte n :: closing ns := h
      obtain ⟨rfl, hcut⟩ := List.cons_prefix_cons.mp hcons
      have hcut_ne : bs ≠ closing ns := fun heq => hne (congrArg (digitByte n :: ·) heq)
      rw [parseString, if_neg (digitByte_ne_quote n), ih hcut hcut_ne]
      rfl

/-- A `RestJson` that reads the bodies of the app, and writes the texts of a list one after
another. -/
def plainJson : RestJson where
  parse := parsePost
  render
    | .rows rs => rs.flatMap fun r => r.chars.flatMap fun
      | .scalar c => String.utf8EncodeChar c
      | .surrogate _ => []
    | _ => []
  parse_postData f := by
    rw [encode_postData, parsePost, List.take_left, if_pos rfl, List.drop_left,
      parseString_closing, formBody, hexText_eq, hexChars_eq]
    rfl
  parse_prefix f bs h hne := by
    rw [encode_postData] at h hne
    rw [parsePost]
    split
    · next hopening =>
      obtain ⟨bs', rfl⟩ : ∃ bs', bs = opening ++ bs' :=
        ⟨_, (List.take_append_drop opening.length bs).symm.trans (by rw [hopening])⟩
      rw [List.drop_left, parseString_prefix ((List.prefix_append_right_inj _).mp h)
        fun heq => hne (heq ▸ rfl)]
      rfl
    · rfl

/-! ### Downloads -/

/-- A line that brings a response with these bytes to the app, where `tls` says that there is an
initialised context. -/
structure Line.Brings (tls : Prop) (l : Line) (bs : List UInt8) : Prop where
  url : l.url = .ok ()
  connection : ∃ https, l.openConnection = .ok https ∧ (https = true → tls)
  configure : l.configure = .ok ()
  stream : ∃ S, l.getInputStream bs = .ok (some S) ∧ S.failure = none ∧ S.closeFailure = none

/-- What `httpGet` makes of a response with these bytes: nothing, an empty text if there is no
stream, or the whole of it, and the whole if the line brings it. -/
structure Shows (D : Decoder) (tls : Prop) (l : Line) (bs : List UInt8) (m : Option JString) :
    Prop where
  cases : m = none ∨ l.getInputStream bs = .ok none ∧ m = some [] ∨ m = some (D.decode bs)
  whole : l.Brings tls bs → m = some (D.decode bs)

/-- `readFully` returns all of a stream, or nothing of it. -/
theorem readFully_some (D : Decoder) (S : InputStream) :
    (readFully D (some S)).toOption =
      if S.failure = none ∧ S.closeFailure = none then some (D.decode S.bytes) else none := by
  rw [readFully, collect_eq]
  rcases S.failure with _ | e
  · rcases S.closeFailure with _ | e <;> rfl
  · rcases S.closeFailure with _ | e' <;> rfl

theorem shows_httpGet (J : RestJson) (D : Decoder) (ctx : Option SslContext) (l : Line)
    (r : Response) :
    Shows D (ctx = some .initialised) l (J.render r.data)
      (httpGet D ctx (l.connection J (some r))).1 := by
  rcases connect_spec ctx (l.connection J (some r)) {} with ⟨-, hconn⟩ | ⟨hc, e, hconn⟩
  · rcases hin : l.getInputStream (J.render r.data) with e | _ | S
    · rw [httpGet_of_error (.inr ⟨hconn, hin⟩)]
      refine ⟨.inl rfl, fun h => ?_⟩
      obtain ⟨S, hS, -⟩ := h.stream
      exact absurd (hin.symm.trans hS) nofun
    · rw [httpGet_of_stream D hconn hin]
      refine ⟨.inr (.inl ⟨hin, rfl⟩), fun h => ?_⟩
      obtain ⟨S, hS, -⟩ := h.stream
      exact absurd (Except.ok.inj (hin.symm.trans hS)) nofun
    · rw [httpGet_of_stream D hconn hin, readFully_some]
      split
      · next hends =>
        rw [l.delivers _ S hin hends.1]
        exact ⟨.inr (.inr rfl), fun _ => rfl⟩
      · next hends =>
        refine ⟨.inl rfl, fun h => ?_⟩
        obtain ⟨S', hS', hends'⟩ := h.stream
        obtain rfl := Option.some.inj (Except.ok.inj (hin.symm.trans hS'))
        exact absurd hends' hends
  · rw [httpGet_of_error (.inl hconn)]
    exact ⟨.inl rfl, fun h => absurd ⟨h.url, h.connection, h.configure⟩ hc⟩

/-- The task of a download whose constructor returns. -/
theorem doInBackground_download (D : Decoder) {s s' : Statics} {t : GetTask}
    (hc : construct s t.setup = (none, s')) :
    (SendGetRequest.doInBackground D s t).2 =
      { result := .ok (joined (httpGet D s'.sslContext t.cam).1 (httpGet D s'.sslContext t.denm).1),
        exchanges := [(httpGet D s'.sslContext t.cam).2, (httpGet D s'.sslContext t.denm).2],
        shown := some (literal "Data :" ++
          joined (httpGet D s'.sslContext t.cam).1 (httpGet D s'.sslContext t.denm).1) } := by
  rw [SendGetRequest.doInBackground, hc]

/-- A line on which everything works. Responses come byte by byte. -/
def plainLine : Line where
  url := .ok ()
  openConnection := .ok true
  configure := .ok ()
  getOutputStream := .ok (some ⟨none⟩)
  arrives := some
  arrives_prefix := by
    rintro bs bs' ⟨⟩
    exact List.prefix_rfl
  getInputStream bs :=
    .ok (some (.ofDeliveries
      (bs.map fun b => ⟨[b], Nat.one_pos, Nat.le_of_ble_eq_true rfl, false⟩) false))
  delivers := by
    rintro bs S ⟨⟩ -
    rw [InputStream.bytes, InputStream.ofDeliveries, List.flatMap_map]
    exact List.flatMap_singleton' bs
  getResponseCode := .ok ()
  getResponseMessage := .ok ()

theorem brings_plainLine {tls : Prop} (htls : tls) (bs : List UInt8) : plainLine.Brings tls bs :=
  ⟨rfl, ⟨true, rfl, fun _ => htls⟩, rfl, ⟨_, rfl, rfl, rfl⟩⟩

/-- **What a download shows.** After every run of the clients, unless an exception leaves the
constructor, it shows for each collection null, an empty text, or the list of all entries that the
other clients have made of it by then, and never a part of such a list. If the network brings the
response in full, it is the list. -/
theorem downloads_show (J : RestJson) (D : Decoder) (s : Statics × Database F) (es : List Event)
    {d : Download} (h : ¬ Escapes ((clients F J D).after s es).1 d.setup) :
    ∃ o cam denm,
      ((clients F J D).step ((clients F J D).after s es) (.download d)).2.outcome = some o ∧
      o.result = .ok (joined cam denm) ∧
      o.shown = some (literal "Data :" ++ joined cam denm) ∧
      Shows D (SetUp ((clients F J D).after s es).1 d.setup) d.cam
        (J.render (.rows
          (F.all ((server F).after s.2 (es.flatMap Event.requests) .denmCamCam)))) cam ∧
      Shows D (SetUp ((clients F J D).after s es).1 d.setup) d.denm
        (J.render (.rows
          (F.all ((server F).after s.2 (es.flatMap Event.requests ++ d.between) .denmCamDenm))))
        denm := by
  rw [(server F).after_append, ← database_after J D s es]
  generalize (clients F J D).after s es = t at h ⊢
  obtain ⟨t', hc, hctx⟩ := construct_of_not_escapes h
  rw [← hctx]
  have hcam := shows_httpGet J D t'.sslContext d.cam ⟨200, .rows (F.all (t.2 .denmCamCam))⟩
  have hdenm := shows_httpGet J D t'.sslContext d.denm
    ⟨200, .rows (F.all ((server F).after t.2 d.between .denmCamDenm))⟩
  have hdone := doInBackground_download D (t := d.task J ⟨200, .rows (F.all (t.2 .denmCamCam))⟩
    ⟨200, .rows (F.all ((server F).after t.2 d.between .denmCamDenm))⟩) hc
  refine ⟨_, _, _, rfl, ?_, ?_, hcam, hdenm⟩
  · exact congrArg Outcome.result hdone
  · exact congrArg Outcome.shown hdone

/-- The app uploads a frame, another client posts "ab", and the app downloads: it shows the entry of
the other client only. -/
theorem download_other_entry :
    ∃ (D : Decoder) (db : Database plainFramework) (es : List Event) (d : Download) (o : Outcome),
      es = [.upload ⟨⟨none⟩, plainLine, [0x11]⟩,
        .other (.camList, .post (some (.object [(charsName, .string (text ['a', 'b']))])))] ∧
      ((clients plainFramework plainJson D).step
        ((clients plainFramework plainJson D).after (.initial, db) es)
        (.download d)).2.outcome = some o ∧
      o.result = .ok (joined (some (D.decode [0x61, 0x62])) (some (D.decode []))) := by
  let D : Decoder := ⟨fun _ => 1, fun _ => Nat.one_pos⟩
  let db : Database plainFramework := emptyDatabase
  let es : List Event := [.upload ⟨⟨none⟩, plainLine, [0x11]⟩,
    .other (.camList, .post (some (.object [(charsName, .string (text ['a', 'b']))])))]
  let d : Download := ⟨⟨none⟩, plainLine, [], plainLine⟩
  have hesc : ¬ Escapes ((clients plainFramework plainJson D).after (.initial, db) es).1
      d.setup := by
    rintro ⟨-, step, e, hf, -⟩
    cases hf
  obtain ⟨o, cam, denm, ho, hresult, -, hcam, hdenm⟩ :=
    downloads_show plainJson D (.initial, db) es hesc
  have hset : SetUp ((clients plainFramework plainJson D).after (.initial, db) es).1 d.setup :=
    .inr rfl
  rw [hcam.whole (brings_plainLine hset _), hdenm.whole (brings_plainLine hset _)] at hresult
  exact ⟨D, db, es, d, o, rfl, ho, hresult⟩

end BluetoothAuto.AppClient
