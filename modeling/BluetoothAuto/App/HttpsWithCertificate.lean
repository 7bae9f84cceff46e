import BluetoothAuto.App.HttpBodies

/-!
# `HttpsWithCertificate`: requests with a client certificate

The constructor sets up the TLS context of the process, unless an earlier one has done so, and
prints what goes wrong. `httpPost` and `httpGet` use the context that there is, catch every
exception, print it and return; `httpGet` then returns null.

What the platform and the server do at each step is given from outside: it returns, or it throws.
What passes over a connection is recorded in an `Exchange`.

## Main results

* `connect_spec` — how a request gets as far as its streams
* `posted_iff` — when the whole body is written and the answer is a success
* `received_iff` — when the whole body of a response is read
* `content_length_iff` — when the declared length of a body is its length
-/

namespace BluetoothAuto.App.HttpsWithCertificate

open Utf16 Utf8

/-! ### The TLS context -/

/-- An `SSLContext`. -/
inductive SslContext where
  /-- Returned by `getInstance`; `init` has not succeeded. -/
  | created
  | initialised
  deriving DecidableEq

/-- The static fields. Once the set-up has succeeded it is not repeated. -/
structure Statics where
  sslContext : Option SslContext
  run : Bool
  run_iff : run = true ↔ sslContext = some .initialised
  deriving DecidableEq

/-- The static fields when the class is loaded. -/
def Statics.initial : Statics := ⟨none, false, by decide⟩

/-- The steps of `setupSSLClientCertificate`. -/
inductive SetupStep where
  | openRawResource
  | getKeyStore
  | load
  | getKeyManagerFactory
  | initKeyManagerFactory
  | getKeyManagers
  | getSslContext
  | initSslContext
  deriving DecidableEq

/-- What the steps of one set-up do: the first one that throws, and what; `none` if all return. -/
structure Setup where
  failure : Option (SetupStep × Exception)

/-- What a step of the set-up does. -/
def Setup.outcome (u : Setup) (step : SetupStep) : Except Exception Unit :=
  match u.failure with
  | none => .ok ()
  | some (failing, e) => if step = failing then .error e else .ok ()

/-- A step of the platform. -/
def call {σ α : Type} (outcome : Except Exception α) : EStateM Exception σ α :=
  fun s =>
    match outcome with
    | .ok a => .ok a s
    | .error e => .error e s

/-- What follows a block that returns. -/
theorem bind_of_ok {σ α β : Type} {m : EStateM Exception σ α} {s t : σ} {a : α}
    (h : m s = .ok a t) (f : α → EStateM Exception σ β) : (m >>= f) s = f a t := by
  show EStateM.bind m f s = f a t
  rw [EStateM.bind, h]

/-- Nothing follows a block that throws. -/
theorem bind_of_error {σ α β : Type} {m : EStateM Exception σ α} {s t : σ} {e : Exception}
    (h : m s = .error e t) (f : α → EStateM Exception σ β) : (m >>= f) s = .error e t := by
  show EStateM.bind m f s = .error e t
  rw [EStateM.bind, h]

theorem call_ok_bind {σ α β : Type} (a : α) (f : α → EStateM Exception σ β) (s : σ) :
    (call (.ok a) >>= f) s = f a s := rfl

/-- `setupSSLClientCertificate`, on the field `sslContext`. -/
def setupSslClientCertificate (u : Setup) : EStateM Exception (Option SslContext) Unit := do
  call (u.outcome .openRawResource)
  call (u.outcome .getKeyStore)
  call (u.outcome .load)
  call (u.outcome .getKeyManagerFactory)
  call (u.outcome .initKeyManagerFactory)
  call (u.outcome .getKeyManagers)
  call (u.outcome .getSslContext)
  set (some SslContext.created)
  call (u.outcome .initSslContext)
  set (some SslContext.initialised)

/-- A set-up that returns leaves an initialised context. -/
theorem of_setup_ok {u : Setup} {ctx ctx' : Option SslContext}
    (h : setupSslClientCertificate u ctx = .ok () ctx') :
    u.failure = none ∧ ctx' = some .initialised := by
  obtain ⟨_ | ⟨step, e⟩⟩ := u
  · obtain ⟨-, rfl⟩ := EStateM.Result.ok.inj h
    exact ⟨rfl, rfl⟩
  · rcases step with _ | _ | _ | _ | _ | _ | _ | _ <;> cases h

/-- A set-up that throws leaves the context that there was, or a new one that is not
initialised. -/
theorem of_setup_error {u : Setup} {e : Exception} {ctx ctx' : Option SslContext}
    (h : setupSslClientCertificate u ctx = .error e ctx') :
    (∃ step, u.failure = some (step, e)) ∧ (ctx' = ctx ∨ ctx' = some .created) := by
  obtain ⟨_ | ⟨step, e'⟩⟩ := u
  · cases h
  · rcases step with _ | _ | _ | _ | _ | _ | _ | _
    case initSslContext =>
      obtain ⟨rfl, rfl⟩ := EStateM.Result.error.inj h
      exact ⟨⟨_, rfl⟩, .inr rfl⟩
    all_goals
      obtain ⟨rfl, rfl⟩ := EStateM.Result.error.inj h
      exact ⟨⟨_, rfl⟩, .inl rfl⟩

/-- The clauses of the constructor: every checked exception is caught. -/
def caught (e : Exception) : Bool :=
  match e with
  | .keyStore | .certificate | .noSuchAlgorithm | .io | .unrecoverableKey | .keyManagement => true
  | .runtime => false

/-- After a set-up that returned, the fields say so. -/
theorem run_iff_of_ok {u : Setup} {ctx ctx' : Option SslContext}
    (h : setupSslClientCertificate u ctx = .ok () ctx') :
    true = true ↔ ctx' = some SslContext.initialised :=
  iff_of_true rfl (of_setup_ok h).2

/-- After a set-up that threw, the next constructor will try again. -/
theorem run_iff_of_error {s : Statics} {u : Setup} {e : Exception} {ctx : Option SslContext}
    (hrun : ¬ s.run = true) (h : setupSslClientCertificate u s.sslContext = .error e ctx) :
    false = true ↔ ctx = some SslContext.initialised := by
  refine iff_of_false (by decide) fun hinit => ?_
  rcases (of_setup_error h).2 with rfl | rfl
  · exact hrun (s.run_iff.mpr hinit)
  · exact absurd hinit (by decide)

/-- The constructor of `HttpsWithCertificate`: what it throws, and the static fields after it. -/
def construct (s : Statics) (u : Setup) : Option Exception × Statics :=
  if hrun : s.run = true then (none, s)
  else
    match h : setupSslClientCertificate u s.sslContext with
    | .ok () ctx => (none, ⟨ctx, true, run_iff_of_ok h⟩)
    | .error e ctx => (if caught e then none else some e, ⟨ctx, false, run_iff_of_error hrun h⟩)

/-- The set-up of a constructor is not needed, or succeeds. -/
def SetUp (s : Statics) (u : Setup) : Prop := s.run = true ∨ u.failure = none

/-- The set-up of a constructor is needed, and throws what the constructor does not catch. -/
def Escapes (s : Statics) (u : Setup) : Prop :=
  s.run = false ∧ ∃ step e, u.failure = some (step, e) ∧ caught e = false

/-- **The constructor** throws exactly what it does not catch, and leaves an initialised context
exactly if the set-up is not needed or succeeds. -/
theorem construct_spec (s : Statics) (u : Setup) :
    ((construct s u).1 = none ↔ ¬ Escapes s u) ∧
      ((construct s u).2.sslContext = some .initialised ↔ SetUp s u) := by
  rw [construct, SetUp, Escapes]
  split
  · next hrun =>
    refine ⟨iff_of_true rfl fun h => ?_, iff_of_true (s.run_iff.mp hrun) (.inl hrun)⟩
    rw [hrun] at h
    exact absurd h.1 (by decide)
  · next hrun =>
    split
    · next ctx h =>
      obtain ⟨hf, rfl⟩ := of_setup_ok h
      refine ⟨iff_of_true rfl fun hesc => ?_, iff_of_true rfl (.inr hf)⟩
      obtain ⟨-, step, e, he, -⟩ := hesc
      rw [hf] at he
      exact absurd he nofun
    · next e ctx h =>
      obtain ⟨step, hf⟩ := (of_setup_error h).1
      have hinit : ctx ≠ some .initialised :=
        fun hctx => absurd ((run_iff_of_error hrun h).mpr hctx) (by decide)
      rw [hf]
      refine ⟨?_, iff_of_false hinit fun hset => hset.elim hrun nofun⟩
      show (if caught e = true then none else some e) = none ↔ _
      split
      · next hc =>
        refine iff_of_true rfl fun ⟨_, _, _, he, hnc⟩ => ?_
        obtain ⟨rfl, rfl⟩ := Prod.ext_iff.mp (Option.some.inj he)
        exact absurd (hc.symm.trans hnc) (by decide)
      · next hc =>
        refine iff_of_false nofun fun hesc => hesc ⟨?_, step, e, rfl, ?_⟩
        · exact Bool.eq_false_iff.mpr hrun
        · exact Bool.eq_false_iff.mpr hc

/-! ### Connections -/

/-- `sslContext.getSocketFactory()`. -/
def getSocketFactory (sslContext : Option SslContext) : Except Exception Unit :=
  match sslContext with
  | some .initialised => .ok ()
  -- a `NullPointerException`, or an `IllegalStateException`
  | _ => .error .runtime

/-- What the steps of one request do. -/
structure Connection where
  /-- `new URL(url)`. -/
  url : Except Exception Unit
  /-- `openConnection` and the cast: whether the connection is an `HttpsURLConnection`. -/
  openConnection : Except Exception Bool
  /-- `setSSLSocketFactory`, `setRequestMethod`, `setRequestProperty` and `setDoOutput`. -/
  configure : Except Exception Unit
  /-- `getOutputStream`: the stream, or null. -/
  getOutputStream : Except Exception (Option OutputStream)
  /-- `getInputStream`: the stream, or null. -/
  getInputStream : Except Exception (Option InputStream)
  /-- `getResponseCode`. -/
  getResponseCode : Except Exception ℤ
  /-- `getResponseMessage`. -/
  getResponseMessage : Except Exception Unit

/-- What has passed over a connection. -/
structure Exchange where
  /-- The headers set, in order. -/
  requestProperties : List (String × String) := []
  /-- The bytes of the body that the connection took. -/
  body : List UInt8 := []
  /-- The status of the response, when it has been asked for. -/
  responseCode : Option ℤ := none
  /-- The bytes of the response, when it has been read to its end. -/
  received : Option (List UInt8) := none
  deriving DecidableEq

/-- `setRequestProperty`, which replaces an earlier value. -/
def Exchange.setRequestProperty (x : Exchange) (key value : String) : Exchange :=
  { x with requestProperties := x.requestProperties.filter (·.1 ≠ key) ++ [(key, value)] }

/-- The value of a header. -/
def Exchange.requestProperty (x : Exchange) (key : String) : Option String :=
  x.requestProperties.lookup key

/-- The first steps of `httpGet` and `httpPost`. -/
def connect (sslContext : Option SslContext) (c : Connection) :
    EStateM Exception Exchange Unit := do
  call c.url
  let https ← call c.openConnection
  call (if https then getSocketFactory sslContext else .ok ())
  call c.configure

/-- The call of `writeFully`. -/
def send (outputStream : Option OutputStream) (data : JString) :
    EStateM Exception Exchange Unit := fun x =>
  let (bytes, thrown) := writeFully outputStream data
  match thrown with
  | none => .ok () { x with body := bytes }
  | some e => .error e { x with body := bytes }

/-- The last part of `httpPost`: the body and the response. -/
def exchange (c : Connection) (data : JString) : EStateM Exception Exchange Unit := do
  let outputStream ← call c.getOutputStream
  send outputStream data
  let responseCode ← call c.getResponseCode
  modify fun x => { x with responseCode := some responseCode }
  call c.getResponseMessage

/-- The `try` block of `httpPost`. -/
def tryPost (sslContext : Option SslContext) (c : Connection) (data : Option JString) :
    EStateM Exception Exchange Unit := do
  connect sslContext c
  -- `data.length()`
  let data ← call (data.elim (.error .runtime) .ok)
  modify (·.setRequestProperty "Content-length" (toString data.length))
  modify (·.setRequestProperty "Content-Type" "application/json; utf-8")
  modify (·.setRequestProperty "Accept" "application/json")
  exchange c data

/-- `HttpsWithCertificate.httpPost`, which catches every exception. -/
def httpPost (sslContext : Option SslContext) (c : Connection) (data : Option JString) : Exchange :=
  match tryPost sslContext c data {} with
  | .ok _ x => x
  | .error _ x => x

/-- The bytes of a response that is read to its end. -/
def readToEnd (inputStream : Option InputStream) : Option (List UInt8) :=
  match inputStream with
  | none => none
  | some S =>
    match collect S (.replicate 1024 0) with
    | .ok bytes => some bytes
    | .error _ => none

/-- The `try` block of `httpGet`. -/
def tryGet (D : Decoder) (sslContext : Option SslContext) (c : Connection) :
    EStateM Exception Exchange JString := do
  connect sslContext c
  let inputStream ← call c.getInputStream
  modify fun x => { x with received := readToEnd inputStream }
  call (readFully D inputStream)

/-- `HttpsWithCertificate.httpGet`: the result, null after an exception, and the exchange. -/
def httpGet (D : Decoder) (sslContext : Option SslContext) (c : Connection) :
    Option JString × Exchange :=
  match tryGet D sslContext c {} with
  | .ok result x => (some result, x)
  | .error _ x => (none, x)

/-- A request gets as far as its streams, where `tls` says that there is an initialised context. -/
structure Connects (tls : Prop) (c : Connection) : Prop where
  url : c.url = .ok ()
  connection : ∃ https, c.openConnection = .ok https ∧ (https = true → tls)
  configure : c.configure = .ok ()

/-- The first steps return exactly if the request gets as far as its streams, and nothing passes
over the connection in them. -/
theorem connect_spec (sslContext : Option SslContext) (c : Connection) (x : Exchange) :
    (Connects (sslContext = some .initialised) c ∧ connect sslContext c x = .ok () x) ∨
      ¬ Connects (sslContext = some .initialised) c ∧
        ∃ e, connect sslContext c x = .error e x := by
  rw [connect]
  rcases hurl : c.url with e | _
  · exact .inr ⟨fun h => absurd (hurl.symm.trans h.url) nofun, e, rfl⟩
  rw [call_ok_bind]
  rcases hopen : c.openConnection with e | https
  · refine .inr ⟨fun h => ?_, e, rfl⟩
    obtain ⟨https, hok, -⟩ := h.connection
    exact absurd (hopen.symm.trans hok) nofun
  rw [call_ok_bind]
  by_cases hctx : https = true → sslContext = some .initialised
  · have hfactory : (if https then getSocketFactory sslContext else .ok ()) = .ok () := by
      split
      · next h =>
        rw [hctx h]
        rfl
      · rfl
    rw [hfactory, call_ok_bind]
    rcases hconf : c.configure with e | _
    · exact .inr ⟨fun h => absurd (hconf.symm.trans h.configure) nofun, e, rfl⟩
    · exact .inl ⟨⟨hurl, ⟨https, hopen, hctx⟩, hconf⟩, rfl⟩
  · obtain ⟨rfl, hne⟩ := Classical.not_imp.mp hctx
    have hfactory : getSocketFactory sslContext = .error .runtime := by
      rcases sslContext with _ | _ | _
      · rfl
      · rfl
      · exact absurd rfl hne
    rw [if_pos rfl, hfactory]
    refine .inr ⟨fun h => ?_, .runtime, rfl⟩
    obtain ⟨https, hok, himp⟩ := h.connection
    obtain rfl := Except.ok.inj (hopen.symm.trans hok)
    exact hne (himp rfl)

/-! ### The body of a request -/

/-- A status that stands for a success. -/
def IsSuccess (responseCode : ℤ) : Prop := 200 ≤ responseCode ∧ responseCode < 300

/-- The whole body is written over the connection. -/
structure Writes (tls : Prop) (c : Connection) (data : JString) : Prop where
  connects : Connects tls c
  takes : ∃ o, c.getOutputStream = .ok o ∧ Takes o data

/-- The whole body was written, and the server answered with a success. -/
def Posted (data : Option JString) (x : Exchange) : Prop :=
  ∃ body, data = some body ∧ x.body = encode body ∧
    ∃ responseCode, x.responseCode = some responseCode ∧ IsSuccess responseCode

/-- The headers of a request for `data`. -/
def postProperties (data : JString) : List (String × String) :=
  [("Content-length", toString data.length), ("Content-Type", "application/json; utf-8"),
    ("Accept", "application/json")]

/-- The exchange of a body, from the headers on. -/
def exchanged (c : Connection) (data : JString) : Exchange :=
  match exchange c data { requestProperties := postProperties data } with
  | .ok _ x => x
  | .error _ x => x

/-- What `httpPost` leaves if the request gets as far as its streams. -/
theorem httpPost_of_connects {sslContext : Option SslContext} {c : Connection}
    (h : connect sslContext c {} = .ok () {}) (data : JString) :
    httpPost sslContext c (some data) = exchanged c data := by
  rw [httpPost, tryPost, bind_of_ok h]
  rfl

/-- What `httpPost` leaves if the request does not get as far as its streams. -/
theorem httpPost_of_error {sslContext : Option SslContext} {c : Connection} {e : Exception}
    (h : connect sslContext c {} = .error e {}) (data : Option JString) :
    httpPost sslContext c data = {} := by
  rw [httpPost, tryPost, bind_of_error h]

/-- An exchange without a stream for the body. -/
theorem exchanged_of_error {c : Connection} {e : Exception} (h : c.getOutputStream = .error e)
    (data : JString) : exchanged c data = { requestProperties := postProperties data } := by
  rw [exchanged, exchange, h]
  rfl

/-- An exchange whose body is not written without an exception. The response is not asked for. -/
theorem exchanged_of_thrown {c : Connection} {o : Option OutputStream} {data : JString}
    {bytes : List UInt8} {e : Exception} (h : c.getOutputStream = .ok o)
    (hwrite : writeFully o data = (bytes, some e)) :
    exchanged c data = { requestProperties := postProperties data, body := bytes } := by
  rw [exchanged, exchange, h, call_ok_bind]
  have hsend : ∀ x, send o data x = .error e { x with body := bytes } := by
    intro x
    rw [send, hwrite]
  rw [bind_of_error (hsend _)]

/-- An exchange whose body is written, in full or not, as far as `httpPost` can tell. -/
theorem exchanged_of_written {c : Connection} {o : Option OutputStream} {data : JString}
    {bytes : List UInt8} (h : c.getOutputStream = .ok o)
    (hwrite : writeFully o data = (bytes, none)) :
    exchanged c data =
      { requestProperties := postProperties data, body := bytes,
        responseCode := c.getResponseCode.toOption } := by
  rw [exchanged, exchange, h, call_ok_bind]
  have hsend : ∀ x, send o data x = .ok () { x with body := bytes } := by
    intro x
    rw [send, hwrite]
  rw [bind_of_ok (hsend _)]
  rcases c.getResponseCode with e | responseCode
  · rfl
  · rw [call_ok_bind]
    rcases c.getResponseMessage with e | _ <;> rfl

/-- Whether the body is written, once the request has got as far as its stream. -/
theorem writes_iff {tls : Prop} {c : Connection} {o : Option OutputStream} (hc : Connects tls c)
    (h : c.getOutputStream = .ok o) {data : JString} :
    Writes tls c data ↔ writeFully o data = (encode data, none) := by
  rw [writeFully_iff]
  constructor
  · rintro ⟨-, o', ho', htakes⟩
    obtain rfl := Except.ok.inj (h.symm.trans ho')
    exact htakes
  · intro htakes
    exact ⟨hc, o, h, htakes⟩

/-- A server that has not been asked for its answer has not given one. -/
theorem not_answered {x : Exchange} (h : x.responseCode = none) :
    ¬ ∃ responseCode, x.responseCode = some responseCode ∧ IsSuccess responseCode := by
  rintro ⟨responseCode, hcode, -⟩
  exact absurd (h.symm.trans hcode) nofun

/-- **When the whole body is written and the answer is a success.** -/
theorem posted_iff (sslContext : Option SslContext) (c : Connection) (data : Option JString) :
    Posted data (httpPost sslContext c data) ↔
      ∃ body, data = some body ∧ Writes (sslContext = some .initialised) c body ∧
        ∃ responseCode, c.getResponseCode = .ok responseCode ∧ IsSuccess responseCode := by
  refine exists_congr fun body => and_congr_right ?_
  rintro rfl
  rcases connect_spec sslContext c {} with ⟨hc, hconn⟩ | ⟨hc, e, hconn⟩
  · rw [httpPost_of_connects hconn]
    rcases hout : c.getOutputStream with e | o
    · rw [exchanged_of_error hout]
      refine iff_of_false (fun h => not_answered rfl h.2) fun h => ?_
      obtain ⟨o, ho, -⟩ := h.1.takes
      exact absurd (hout.symm.trans ho) nofun
    · rw [writes_iff hc hout]
      rcases hwrite : writeFully o body with ⟨bytes, _ | e⟩
      · rw [exchanged_of_written hout hwrite, Prod.ext_iff, and_iff_left rfl]
        refine and_congr_right fun _ => exists_congr fun responseCode => and_congr_left fun _ => ?_
        rcases c.getResponseCode with e | code
        · exact iff_of_false nofun nofun
        · exact ⟨fun h => congrArg Except.ok (Option.some.inj h),
            fun h => congrArg some (Except.ok.inj h)⟩
      · rw [exchanged_of_thrown hout hwrite]
        exact iff_of_false (fun h => not_answered rfl h.2) fun h =>
          absurd (Prod.ext_iff.mp h.1).2 nofun
  · rw [httpPost_of_error hconn]
    exact iff_of_false (fun h => not_answered rfl h.2) fun h => hc h.1.connects

/-! ### The declared length -/

/-- **The declared body length is the body's length.** -/
def DeclaresLength (x : Exchange) : Prop :=
  x.requestProperty "Content-length" = some (toString x.body.length)

/-- The exchange of a body that is written in full. -/
theorem httpPost_of_writes {sslContext : Option SslContext} {c : Connection} {data : JString}
    (h : Writes (sslContext = some .initialised) c data) :
    (httpPost sslContext c (some data)).requestProperties = postProperties data ∧
      (httpPost sslContext c (some data)).body = encode data := by
  rcases connect_spec sslContext c {} with ⟨hc, hconn⟩ | ⟨hc, -⟩
  · obtain ⟨o, hout, htakes⟩ := h.takes
    rw [httpPost_of_connects hconn, exchanged_of_written hout (writeFully_iff.mpr htakes)]
    exact ⟨rfl, rfl⟩
  · exact absurd h.connects hc

/-- Different numbers have different decimals. -/
theorem decimal_inj {m n : ℕ} : toString m = toString n ↔ m = n := by
  constructor
  · intro h
    have hdigits : Nat.toDigits 10 m = Nat.toDigits 10 n := by
      rw [← Nat.toList_repr, ← Nat.toList_repr]
      exact congrArg String.toList h
    rw [← Nat.ofDigitChars_ten_toDigits (n := m), hdigits, Nat.ofDigitChars_ten_toDigits]
  · intro h
    rw [h]

/-- The declared length is the number of code units. -/
theorem declaresLength_iff {sslContext : Option SslContext} {c : Connection} {data : JString}
    (h : Writes (sslContext = some .initialised) c data) :
    DeclaresLength (httpPost sslContext c (some data)) ↔ OneByteEach data := by
  obtain ⟨hproperties, hbody⟩ := httpPost_of_writes h
  rw [DeclaresLength, Exchange.requestProperty, hproperties, hbody]
  show some (toString data.length) = some (toString (encode data).length) ↔ _
  rw [Option.some_inj, ← (length_encode data).2]
  exact decimal_inj.trans eq_comm

/-- A connection on which everything works. -/
def workingConnection : Connection where
  url := .ok ()
  openConnection := .ok true
  configure := .ok ()
  getOutputStream := .ok (some ⟨none⟩)
  getInputStream := .ok (some (.ofDeliveries [] false))
  getResponseCode := .ok 201
  getResponseMessage := .ok ()

theorem writes_workingConnection {tls : Prop} (htls : tls) (data : JString) :
    Writes tls workingConnection data where
  connects := ⟨rfl, ⟨true, rfl, fun _ => htls⟩, rfl⟩
  takes := ⟨some ⟨none⟩, rfl, nofun⟩

/-- **When the declared length of a body is its length.** The header `Content-length` of every
request that writes `data` has the number of bytes written exactly if every code unit of `data` is
an ASCII character or an unpaired surrogate. -/
theorem content_length_iff (data : JString) :
    (∀ sslContext c, Writes (sslContext = some .initialised) c data →
        DeclaresLength (httpPost sslContext c (some data))) ↔
      OneByteEach data := by
  constructor
  · intro h
    have hwrites := writes_workingConnection (rfl : some SslContext.initialised = _) data
    exact (declaresLength_iff hwrites).mp (h _ _ hwrites)
  · intro h sslContext c hwrites
    exact (declaresLength_iff hwrites).mpr h

/-- **An accent is not declared.** The body "é" is declared to have one byte, and has two. -/
theorem accent_not_declared :
    ∃ data sslContext c, Writes (sslContext = some .initialised) c data ∧
      (httpPost sslContext c (some data)).requestProperty "Content-length" = some "1" ∧
      (httpPost sslContext c (some data)).body = [0xC3, 0xA9] ∧
      ¬ DeclaresLength (httpPost sslContext c (some data)) := by
  refine ⟨[0xE9], some .initialised, workingConnection, writes_workingConnection rfl _, by decide,
    by decide, ?_⟩
  rw [declaresLength_iff (writes_workingConnection rfl _)]
  decide

/-! ### The body of a response -/

/-- The whole body of the response was read. -/
def Received (c : Connection) (x : Exchange) : Prop :=
  ∃ S, c.getInputStream = .ok (some S) ∧ x.received = some S.bytes

/-- The request gets as far as its streams, and the stream of the response ends. -/
structure Reads (tls : Prop) (c : Connection) : Prop where
  connects : Connects tls c
  ends : ∃ S, c.getInputStream = .ok (some S) ∧ S.failure = none

/-- A request that throws before it has the stream of the response. -/
theorem httpGet_of_error {D : Decoder} {sslContext : Option SslContext} {c : Connection}
    {e : Exception} (h : connect sslContext c {} = .error e {} ∨
      connect sslContext c {} = .ok () {} ∧ c.getInputStream = .error e) :
    httpGet D sslContext c = (none, {}) := by
  rcases h with hconn | ⟨hconn, hin⟩
  · rw [httpGet, tryGet, bind_of_error hconn]
  · rw [httpGet, tryGet, bind_of_ok hconn, hin]
    rfl

/-- A request that has the stream of the response. -/
theorem httpGet_of_stream (D : Decoder) {sslContext : Option SslContext} {c : Connection}
    {inputStream : Option InputStream} (hconn : connect sslContext c {} = .ok () {})
    (hin : c.getInputStream = .ok inputStream) :
    httpGet D sslContext c =
      ((readFully D inputStream).toOption, { received := readToEnd inputStream }) := by
  rw [httpGet, tryGet, bind_of_ok hconn, hin, call_ok_bind]
  show (match (call (readFully D inputStream) : EStateM Exception Exchange JString)
      { received := readToEnd inputStream } with
    | .ok result x => (some result, x)
    | .error _ x => (none, x)) = _
  rcases readFully D inputStream with e | result <;> rfl

/-- A stream is read to its end exactly if it has one. -/
theorem readToEnd_eq (S : InputStream) :
    readToEnd (some S) = if S.failure = none then some S.bytes else none := by
  rw [readToEnd, collect_eq]
  rcases S.failure with _ | e <;> rfl

/-- **When the whole body of a response is read.** -/
theorem received_iff (D : Decoder) (sslContext : Option SslContext) (c : Connection) :
    Received c (httpGet D sslContext c).2 ↔ Reads (sslContext = some .initialised) c := by
  rcases connect_spec sslContext c {} with ⟨hc, hconn⟩ | ⟨hc, e, hconn⟩
  · rcases hin : c.getInputStream with e | inputStream
    · refine iff_of_false ?_ fun h => ?_
      · rintro ⟨S, hS, -⟩
        exact absurd (hin.symm.trans hS) nofun
      · obtain ⟨S, hS, -⟩ := h.ends
        exact absurd (hin.symm.trans hS) nofun
    · rw [httpGet_of_stream D hconn hin]
      constructor
      · rintro ⟨S, hS, hreceived⟩
        obtain rfl := Except.ok.inj (hin.symm.trans hS)
        refine ⟨hc, S, hS, ?_⟩
        by_contra hfailure
        rw [readToEnd_eq, if_neg hfailure] at hreceived
        exact absurd hreceived nofun
      · rintro ⟨-, S, hS, hfailure⟩
        obtain rfl := Except.ok.inj (hin.symm.trans hS)
        refine ⟨S, hS, ?_⟩
        rw [readToEnd_eq, if_pos hfailure]
  · rw [httpGet_of_error (.inl hconn)]
    refine iff_of_false ?_ fun h => hc h.connects
    rintro ⟨S, -, hreceived⟩
    exact absurd hreceived nofun

end BluetoothAuto.App.HttpsWithCertificate
