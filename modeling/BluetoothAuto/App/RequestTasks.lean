import BluetoothAuto.App.HttpsWithCertificate
import BluetoothAuto.Lib.ServerLoop

/-!
# The request tasks of `MainActivity`

`SendDeviceDetails` posts a message and `SendGetRequest` gets two. Both have an error text for what
their own `catch` clause sees, and it sees next to nothing: `httpPost` returns nothing and catches
everything, and `httpGet` turns every exception into null, which prints as "null" in the text that
the task returns. Only missing parameters get as far as the error text of a POST, and nothing as far
as that of a GET. An exception that the constructor does not catch gets past the `catch` clause, as
the constructor runs outside the `try` block.

The tasks of a process run one after another, and share the static fields of
`HttpsWithCertificate`.

## Main results

* `doInBackground_post`, `doInBackground_get` — what the tasks return
* `reports_failure_iff` — when a task reports failure
* `silent_process` — a process without a certificate reports success after success
-/

namespace BluetoothAuto.App.MainActivity

open HttpsWithCertificate Utf16 Utf8

/-- The string of a literal. -/
def literal (s : String) : JString := s.toList.flatMap units

/-- What a successful `SendDeviceDetails` returns. -/
def postSuccessful : JString := literal "POST successful"

/-- What a failed `SendDeviceDetails` returns. -/
def postError : JString := literal "Error in POST request"

/-- What a failed `SendGetRequest` returns. -/
def getError : JString := literal "Error in GET request"

/-- What a task leaves. -/
structure Outcome where
  /-- What `doInBackground` returns or throws. -/
  result : Except Exception JString
  /-- The exchanges with the server, in order. -/
  exchanges : List Exchange := []
  /-- What is shown in `get_response_text`. -/
  shown : Option JString := none

/-- A run of `SendDeviceDetails`: its parameters, and what the steps behind it do. -/
structure PostTask where
  setup : Setup
  params : List (Option JString)
  connection : Connection

/-- A run of `SendGetRequest`, and what the steps behind it do. -/
structure GetTask where
  setup : Setup
  /-- The connection for `messages/cam/`. -/
  cam : Connection
  /-- The connection for `messages/denm/`. -/
  denm : Connection

/-- A string in a concatenation: null prints as "null". -/
def printed (s : Option JString) : JString := s.getD (literal "null")

/-- The text that `SendGetRequest` returns. -/
def joined (messagesCAM messagesDENM : Option JString) : JString :=
  printed messagesCAM ++ literal "\r\n" ++ printed messagesDENM

/-- `SendDeviceDetails.doInBackground`. -/
def SendDeviceDetails.doInBackground (s : Statics) (t : PostTask) : Statics × Outcome :=
  match construct s t.setup with
  | (some e, s) => (s, { result := .error e })
  | (none, s) =>
    match t.params with
    | _ :: data :: _ =>
      (s, { result := .ok postSuccessful,
            exchanges := [httpPost s.sslContext t.connection data] })
    -- an `ArrayIndexOutOfBoundsException`
    | _ => (s, { result := .ok postError })

/-- `SendGetRequest.doInBackground`. -/
def SendGetRequest.doInBackground (D : Decoder) (s : Statics) (t : GetTask) : Statics × Outcome :=
  match construct s t.setup with
  | (some e, s) => (s, { result := .error e })
  | (none, s) =>
    let (messagesCAM, cam) := httpGet D s.sslContext t.cam
    let (messagesDENM, denm) := httpGet D s.sslContext t.denm
    (s, { result := .ok (joined messagesCAM messagesDENM), exchanges := [cam, denm],
          shown := some (literal "Data :" ++ joined messagesCAM messagesDENM) })

/-- A task of the activity. -/
inductive Task where
  | post (t : PostTask)
  | get (t : GetTask)

/-- What the set-up of a task would do. -/
def Task.setup : Task → Setup
  | .post t => t.setup
  | .get t => t.setup

/-- The tasks of a process, one after another. -/
def process (D : Decoder) : ServerLoop Statics Task Outcome where
  step s t :=
    match t with
    | .post t => SendDeviceDetails.doInBackground s t
    | .get t => SendGetRequest.doInBackground D s t

/-! ### What the tasks report -/

/-- **A task reports failure.** `SendDeviceDetails` returns its success text only if the whole body
was written and the server answered with a success status. `SendGetRequest` returns anything other
than its error text only if both bodies were read in full. -/
def ReportsFailure (task : Task) (o : Outcome) : Prop :=
  match task with
  | .post t =>
    o.result = .ok postSuccessful →
      ∃ data x, t.params[1]? = some data ∧ o.exchanges = [x] ∧ Posted data x
  | .get t =>
    ∀ text, o.result = .ok text → text ≠ getError →
      ∃ cam denm, o.exchanges = [cam, denm] ∧ Received t.cam cam ∧ Received t.denm denm

/-- The steps behind a task do what its report stands for, or a parameter is missing. -/
def Delivers (s : Statics) : Task → Prop
  | .post t =>
    t.params.length < 2 ∨ ∃ body, t.params[1]? = some (some body) ∧
      Writes (SetUp s t.setup) t.connection body ∧
      ∃ responseCode, t.connection.getResponseCode = .ok responseCode ∧ IsSuccess responseCode
  | .get t => Reads (SetUp s t.setup) t.cam ∧ Reads (SetUp s t.setup) t.denm

/-- A constructor that does not throw leaves its fields, and the set-up decides on the context. -/
theorem construct_of_not_escapes {s : Statics} {u : Setup} (h : ¬ Escapes s u) :
    ∃ s', construct s u = (none, s') ∧ (s'.sslContext = some .initialised) = SetUp s u := by
  obtain ⟨hthrown, hinit⟩ := construct_spec s u
  refine ⟨(construct s u).2, ?_, propext hinit⟩
  rw [← hthrown.mpr h]

/-- A constructor that throws. -/
theorem construct_of_escapes {s : Statics} {u : Setup} (h : Escapes s u) :
    ∃ e s', construct s u = (some e, s') := by
  rcases hc : construct s u with ⟨_ | e, s'⟩
  · have hnone : (construct s u).1 = none := by rw [hc]
    exact absurd h ((construct_spec s u).1.mp hnone)
  · exact ⟨e, s', rfl⟩

/-- A task whose constructor throws has no result. -/
theorem result_of_escapes (D : Decoder) {s : Statics} {task : Task} (h : Escapes s task.setup) :
    ∃ e, ((process D).step s task).2.result = .error e := by
  obtain ⟨e, s', hc⟩ := construct_of_escapes h
  refine ⟨e, ?_⟩
  rcases task with t | t
  · show (SendDeviceDetails.doInBackground s t).2.result = _
    rw [SendDeviceDetails.doInBackground, show construct s t.setup = _ from hc]
  · show (SendGetRequest.doInBackground D s t).2.result = _
    rw [SendGetRequest.doInBackground, show construct s t.setup = _ from hc]

/-- **What `SendDeviceDetails` leaves**, if its constructor does not throw: it returns its success
text whatever becomes of the request, and its error text if there are not two parameters. -/
theorem doInBackground_post {s : Statics} {t : PostTask} (h : ¬ Escapes s t.setup) :
    (t.params.length < 2 ∧
        (SendDeviceDetails.doInBackground s t).2 = { result := .ok postError }) ∨
      ∃ data ctx, t.params[1]? = some data ∧ 2 ≤ t.params.length ∧
        (ctx = some .initialised) = SetUp s t.setup ∧
        (SendDeviceDetails.doInBackground s t).2 =
          { result := .ok postSuccessful, exchanges := [httpPost ctx t.connection data] } := by
  obtain ⟨s', hc, hctx⟩ := construct_of_not_escapes h
  rw [SendDeviceDetails.doInBackground, hc]
  rcases t.params with _ | ⟨url, _ | ⟨data, rest⟩⟩
  · exact .inl ⟨by decide, rfl⟩
  · exact .inl ⟨Nat.lt_succ_self 1, rfl⟩
  · exact .inr ⟨data, s'.sslContext, rfl, Nat.le_add_left 2 rest.length, hctx, rfl⟩

/-- The text has a line break, and so it is not the error text. -/
theorem joined_ne_getError (messagesCAM messagesDENM : Option JString) :
    joined messagesCAM messagesDENM ≠ getError := by
  intro h
  have hbreak : 0x0D ∈ joined messagesCAM messagesDENM :=
    List.mem_append_left _ (List.mem_append_right _ (by decide))
  rw [h] at hbreak
  exact absurd hbreak (by decide)

/-- **What `SendGetRequest` leaves**, if its constructor does not throw. -/
theorem doInBackground_get (D : Decoder) {s : Statics} {t : GetTask} (h : ¬ Escapes s t.setup) :
    ∃ ctx shown, (ctx = some .initialised) = SetUp s t.setup ∧
      (SendGetRequest.doInBackground D s t).2 =
        { result := .ok (joined (httpGet D ctx t.cam).1 (httpGet D ctx t.denm).1),
          exchanges := [(httpGet D ctx t.cam).2, (httpGet D ctx t.denm).2], shown := shown } := by
  obtain ⟨s', hc, hctx⟩ := construct_of_not_escapes h
  rw [SendGetRequest.doInBackground, hc]
  exact ⟨s'.sslContext, _, hctx, rfl⟩

/-- A POST whose constructor does not throw. -/
theorem reportsFailure_post {s : Statics} {t : PostTask} (h : ¬ Escapes s t.setup) :
    ReportsFailure (.post t) (SendDeviceDetails.doInBackground s t).2 ↔ Delivers s (.post t) := by
  rw [ReportsFailure, Delivers]
  rcases doInBackground_post h with ⟨hlen, ho⟩ | ⟨data, ctx, hdata, hlen, hctx, ho⟩
  · have hne : postError ≠ postSuccessful := by decide
    rw [ho]
    exact iff_of_true (fun heq => absurd (Except.ok.inj heq) hne) (.inl hlen)
  · rw [ho, or_iff_right (Nat.not_lt.mpr hlen), hdata, ← hctx]
    have hposted := posted_iff ctx t.connection data
    constructor
    · intro hreport
      obtain ⟨data', x, hdata', hx, hdone⟩ := hreport rfl
      obtain rfl := Option.some.inj hdata'
      obtain rfl := List.singleton_inj.mp hx
      obtain ⟨body, rfl, hrest⟩ := hposted.mp hdone
      exact ⟨body, rfl, hrest⟩
    · rintro ⟨body, hbody, hrest⟩ -
      obtain rfl := Option.some.inj hbody
      exact ⟨_, _, rfl, rfl, hposted.mpr ⟨body, rfl, hrest⟩⟩

/-- A GET whose constructor does not throw. The text that it returns has a line break and is not the
error text. -/
theorem reportsFailure_get (D : Decoder) {s : Statics} {t : GetTask} (h : ¬ Escapes s t.setup) :
    ReportsFailure (.get t) (SendGetRequest.doInBackground D s t).2 ↔ Delivers s (.get t) := by
  rw [ReportsFailure, Delivers]
  obtain ⟨ctx, shown, hctx, ho⟩ := doInBackground_get D h
  rw [ho, ← hctx, ← received_iff D, ← received_iff D]
  constructor
  · intro hreport
    obtain ⟨cam, denm, hx, hreceived⟩ := hreport _ rfl (joined_ne_getError _ _)
    obtain ⟨rfl, htail⟩ := List.cons.inj hx
    obtain ⟨rfl, -⟩ := List.cons.inj htail
    exact hreceived
  · intro hreceived _ _ _
    exact ⟨_, _, rfl, hreceived⟩

/-- **When a task reports failure.** In every state of the process and for every outcome of the
steps behind the request: if the constructor throws, or, for a POST, a parameter is missing, and
otherwise exactly if no step fails that the report stands for. -/
theorem reports_failure_iff (D : Decoder) (s : Statics) (task : Task) :
    ReportsFailure task ((process D).step s task).2 ↔
      Escapes s task.setup ∨ Delivers s task := by
  by_cases hesc : Escapes s task.setup
  · obtain ⟨e, he⟩ := result_of_escapes D hesc
    refine iff_of_true ?_ (.inl hesc)
    rcases task with t | t
    · exact fun h => absurd (he.symm.trans h) nofun
    · exact fun messages h => absurd (he.symm.trans h) nofun
  rw [or_iff_right hesc]
  rcases task with t | t
  · exact reportsFailure_post hesc
  · exact reportsFailure_get D hesc

/-- A connection whose server cannot be reached. -/
def deadConnection : Connection :=
  { workingConnection with getOutputStream := .error .io, getInputStream := .error .io }

/-- **Success without a server.** In a fresh process whose set-up succeeds, a POST to a server that
cannot be reached returns "POST successful", and a GET returns "null" twice. No byte of the body has
been written, and none of a response read. -/
theorem success_without_server :
    ∃ (D : Decoder) (post : PostTask) (get : GetTask),
      ((process D).step .initial (.post post)).2.result = .ok (literal "POST successful") ∧
      (((process D).step .initial (.post post)).2.exchanges.map Exchange.body) = [[]] ∧
      ¬ ReportsFailure (.post post) ((process D).step .initial (.post post)).2 ∧
      ((process D).step .initial (.get get)).2.result = .ok (literal "null\r\nnull") ∧
      ¬ ReportsFailure (.get get) ((process D).step .initial (.get get)).2 := by
  refine ⟨⟨fun _ => 1, fun _ => Nat.one_pos⟩,
    ⟨⟨none⟩, [some (literal "messages/cam/"), some (literal "data")], deadConnection⟩,
    ⟨⟨none⟩, deadConnection, deadConnection⟩, rfl, rfl, fun h => ?_, rfl, fun h => ?_⟩
  · obtain ⟨data, x, hdata, hx, hdone⟩ := h rfl
    obtain rfl := List.singleton_inj.mp hx
    obtain ⟨body, -, -, responseCode, hcode, -⟩ := hdone
    exact absurd hcode nofun
  · obtain ⟨cam, denm, -, ⟨S, hS, -⟩, -⟩ := h _ rfl (by decide)
    exact absurd hS nofun

/-! ### A process without a certificate -/

/-- The static fields change in the constructor only. -/
theorem step_statics (D : Decoder) (s : Statics) (task : Task) :
    ((process D).step s task).1 = (construct s task.setup).2 := by
  rcases task with t | t
  · show (SendDeviceDetails.doInBackground s t).1 = (construct s t.setup).2
    rw [SendDeviceDetails.doInBackground]
    rcases construct s t.setup with ⟨_ | e, s'⟩
    · rcases t.params with _ | ⟨url, _ | ⟨data, rest⟩⟩ <;> rfl
    · rfl
  · show (SendGetRequest.doInBackground D s t).1 = (construct s t.setup).2
    rw [SendGetRequest.doInBackground]
    rcases construct s t.setup with ⟨_ | e, s'⟩ <;> rfl

/-- The set-up of a task throws something that the constructor catches. -/
def SetupCaught (u : Setup) : Prop := ∃ step e, u.failure = some (step, e) ∧ caught e = true

/-- A connection that, if it comes to be opened, is an `HttpsURLConnection`. -/
def OnlyHttps (c : Connection) : Prop := c.openConnection ≠ .ok false

/-- The tasks of a process whose client certificate cannot be loaded. As at the call sites, a POST
is executed with a URL and a body, and the URLs are `https`. -/
def Task.WithoutCertificate : Task → Prop
  | .post t => SetupCaught t.setup ∧ 2 ≤ t.params.length ∧ OnlyHttps t.connection
  | .get t => SetupCaught t.setup ∧ OnlyHttps t.cam ∧ OnlyHttps t.denm

/-- Nothing has passed over any connection, and the task returns the text of a success, or the text
of two messages. -/
def Silent : Task → Outcome → Prop
  | .post _, o => o.result = .ok postSuccessful ∧ o.exchanges = [{}]
  | .get _, o => o.result = .ok (literal "null\r\nnull") ∧ o.exchanges = [{}, {}]

theorem setupCaught_of_withoutCertificate {task : Task} (h : task.WithoutCertificate) :
    SetupCaught task.setup := by
  rcases task with t | t
  · exact h.1
  · exact h.1

/-- A set-up that fails again. -/
theorem not_setUp {s : Statics} {u : Setup} (hrun : s.run = false) (h : SetupCaught u) :
    ¬ SetUp s u ∧ ¬ Escapes s u := by
  obtain ⟨step, e, hf, hcaught⟩ := h
  constructor
  · rintro (hset | hset)
    · exact absurd (hrun.symm.trans hset) (by decide)
    · exact absurd (hf.symm.trans hset) nofun
  · rintro ⟨-, step', e', hf', hnot⟩
    obtain ⟨-, rfl⟩ := Prod.ext_iff.mp (Option.some.inj (hf.symm.trans hf'))
    exact absurd (hcaught.symm.trans hnot) (by decide)

/-- Without a context, a request fails before it has a stream. -/
theorem connect_of_onlyHttps {ctx : Option SslContext} {c : Connection}
    (hctx : ctx ≠ some .initialised) (hc : OnlyHttps c) :
    ∃ e, connect ctx c {} = .error e {} := by
  rcases connect_spec ctx c {} with ⟨hconn, -⟩ | ⟨-, he⟩
  · obtain ⟨https, hopen, himp⟩ := hconn.connection
    rcases https with _ | _
    · exact absurd hopen hc
    · exact absurd (himp rfl) hctx
  · exact he

/-- One task of such a process. -/
theorem silent_step (D : Decoder) {s : Statics} {task : Task} (hrun : s.run = false)
    (h : task.WithoutCertificate) : Silent task ((process D).step s task).2 := by
  obtain ⟨hset, hesc⟩ := not_setUp hrun (setupCaught_of_withoutCertificate h)
  rcases task with t | t
  · obtain ⟨-, hlen, hhttps⟩ := h
    rcases doInBackground_post hesc with ⟨hlt, -⟩ | ⟨data, ctx, -, -, hctx, ho⟩
    · omega
    · obtain ⟨e, hconn⟩ := connect_of_onlyHttps (fun hinit => hset (hctx ▸ hinit)) hhttps
      show Silent _ (SendDeviceDetails.doInBackground s t).2
      rw [ho, httpPost_of_error hconn]
      exact ⟨rfl, rfl⟩
  · obtain ⟨-, hcam, hdenm⟩ := h
    obtain ⟨ctx, shown, hctx, ho⟩ := doInBackground_get D hesc
    have hinit : ctx ≠ some .initialised := fun hinit => hset (hctx ▸ hinit)
    obtain ⟨e, hconn⟩ := connect_of_onlyHttps hinit hcam
    obtain ⟨e', hconn'⟩ := connect_of_onlyHttps hinit hdenm
    show Silent _ (SendGetRequest.doInBackground D s t).2
    rw [ho, httpGet_of_error (.inl hconn), httpGet_of_error (.inl hconn')]
    exact ⟨rfl, rfl⟩

/-- **Success after success.** In every run of a process whose client certificate cannot be loaded,
every POST returns "POST successful" and every GET returns "null" twice, and nothing passes over any
connection. -/
theorem silent_process (D : Decoder) {tasks : List Task}
    (h : ∀ task ∈ tasks, task.WithoutCertificate) :
    List.Forall₂ Silent tasks ((process D).answers .initial tasks) := by
  refine ServerLoop.forall₂_answers_of_invariant (I := fun s => s.run = false) ?_
    (fun s task hrun htask => silent_step D hrun htask) rfl h
  intro s task hrun htask
  rw [step_statics]
  have hset := (not_setUp hrun (setupCaught_of_withoutCertificate htask)).1
  rw [Bool.eq_false_iff, ne_eq, (construct s task.setup).2.run_iff, (construct_spec _ _).2]
  exact hset

/-- A POST and a GET of a process whose certificate file cannot be read, to a server that works. -/
theorem silent_two_tasks :
    ∃ (D : Decoder) (post : PostTask) (get : GetTask),
      post.setup = ⟨some (.load, .io)⟩ ∧ get.setup = ⟨some (.load, .io)⟩ ∧
      List.Forall₂ Silent [.post post, .get get]
        ((process D).answers .initial [.post post, .get get]) := by
  let setup : Setup := ⟨some (.load, .io)⟩
  refine ⟨⟨fun _ => 1, fun _ => Nat.one_pos⟩,
    ⟨setup, [some (literal "messages/cam/"), some (literal "data")], workingConnection⟩,
    ⟨setup, workingConnection, workingConnection⟩, rfl, rfl, silent_process _ ?_⟩
  have hcaught : SetupCaught setup := ⟨.load, .io, rfl, rfl⟩
  have hhttps : OnlyHttps workingConnection := nofun
  rintro task (_ | ⟨_, _ | ⟨_, _ | _⟩⟩)
  · exact ⟨hcaught, Nat.le_refl 2, hhttps⟩
  · exact ⟨hcaught, hhttps, hhttps⟩

end BluetoothAuto.App.MainActivity
