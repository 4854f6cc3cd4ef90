import SourceWatch.Proofs.Dispatcher.Effects
import SourceWatch.Proofs.Text.Form

/-!
# Requests for text messages

A finding is sent by one request, if the account makes an address.  The form of the request is read as the sender,
the receiver and the message.  Nothing else that a sink does makes a request, so that the jobs that are carried out
tell which requests are made.

Main definitions:

* `Credentials.StandIn`: the variables are set to the credentials;
* `TextMessenger.HasAddress`: the account makes an address below the service;
* `TextMessenger.Tells`: a request whose form is read as the fields of a finding;
* `Job.request?`: the request that a job makes.

Main statements:

* `Credentials.ofEnvironment_eq_ok_iff`, `Credentials.lacking_of_error`: which credentials are taken, and which
  variables are told of when there are none;
* `TextMessenger.exists_request_iff`: which accounts can be written to;
* `TextMessenger.tells_of_request`: what the form of a request is read as;
* `CarriesOut.requests_eq`: the requests that are made are those of the jobs.
-/

namespace SourceWatch

open Text

/-! ### Credentials -/

/-- A variable is absent or set to the empty text. -/
def Environment.Lacks (env : Environment) (name : String) : Prop :=
  ∀ value, Association.get? name env = some value → value = ""

namespace Environment

variable {env : Environment} {name value : String}

theorem nonempty?_eq_some_iff :
    env.nonempty? name = some value ↔ Association.get? name env = some value ∧ value ≠ "" := by
  rw [nonempty?, Option.filter_eq_some_iff, decide_eq_true_iff]

theorem nonempty?_eq_none_iff : env.nonempty? name = none ↔ env.Lacks name := by
  rw [nonempty?, Option.filter_eq_none_iff]
  exact forall₂_congr fun value _ => by rw [decide_eq_true_iff, not_not]

end Environment

namespace Credentials

/-- **The variables are set to the credentials**, and none of them to the empty text. -/
structure StandIn (c : Credentials) (env : Environment) : Prop where
  account : Association.get? "TWILIO_SID" env = some c.account ∧ c.account ≠ ""
  token : Association.get? "TWILIO_TOKEN" env = some c.token ∧ c.token ≠ ""
  sender : Association.get? "TWILIO_FROM" env = some c.sender ∧ c.sender ≠ ""
  receiver : Association.get? "TWILIO_TO" env = some c.receiver ∧ c.receiver ≠ ""

variable {env : Environment} {c : Credentials} {names : List String}

/-- **Complete credentials.**  Those that the variables are set to are taken. -/
theorem ofEnvironment_eq_ok_iff : ofEnvironment env = .ok c ↔ c.StandIn env := by
  constructor
  · intro h
    unfold ofEnvironment at h
    split at h
    · next account token sender receiver =>
      cases h
      exact
        { account := Environment.nonempty?_eq_some_iff.mp account
          token := Environment.nonempty?_eq_some_iff.mp token
          sender := Environment.nonempty?_eq_some_iff.mp sender
          receiver := Environment.nonempty?_eq_some_iff.mp receiver }
    · cases h
  · intro h
    rw [ofEnvironment, Environment.nonempty?_eq_some_iff.mpr h.account,
      Environment.nonempty?_eq_some_iff.mpr h.token, Environment.nonempty?_eq_some_iff.mpr h.sender,
      Environment.nonempty?_eq_some_iff.mpr h.receiver]

theorem mem_missing_iff {name : String} : name ∈ missing env ↔ name ∈ variableNames ∧ env.Lacks name := by
  rw [missing, List.mem_filter, Option.isNone_iff_eq_none, Environment.nonempty?_eq_none_iff]

/-- Nothing is told to be missing only if all variables are set to something. -/
theorem missing_ne_nil (h : ∀ c, ofEnvironment env ≠ .ok c) : missing env ≠ [] := by
  intro hnil
  have hset : ∀ name ∈ variableNames, ∃ value, env.nonempty? name = some value := by
    intro name hname
    refine Option.ne_none_iff_exists'.mp fun hnone => ?_
    have hmem : name ∈ missing env := mem_missing_iff.mpr ⟨hname, Environment.nonempty?_eq_none_iff.mp hnone⟩
    rw [hnil] at hmem
    exact List.not_mem_nil hmem
  obtain ⟨account, haccount⟩ := hset "TWILIO_SID" (by simp [variableNames])
  obtain ⟨token, htoken⟩ := hset "TWILIO_TOKEN" (by simp [variableNames])
  obtain ⟨sender, hsender⟩ := hset "TWILIO_FROM" (by simp [variableNames])
  obtain ⟨receiver, hreceiver⟩ := hset "TWILIO_TO" (by simp [variableNames])
  exact h ⟨account, token, sender, receiver⟩ (by rw [ofEnvironment, haccount, htoken, hsender, hreceiver])

/-- **Incomplete credentials.**  Without credentials, the variables that are absent or empty are told of, all of them
and in the order in which they are declared. -/
theorem lacking_of_error (h : ofEnvironment env = .error names) :
    names ≠ [] ∧ names.Sublist variableNames ∧ ∀ name, name ∈ names ↔ name ∈ variableNames ∧ env.Lacks name := by
  have hnone : ∀ c, ofEnvironment env ≠ .ok c := by
    intro c hc
    rw [h] at hc
    cases hc
  have hnames : names = missing env := by
    unfold ofEnvironment at h
    split at h
    · cases h
    · cases h
      rfl
  rw [hnames]
  exact ⟨missing_ne_nil hnone, List.filter_sublist, fun name => mem_missing_iff⟩

end Credentials

/-! ### Addresses -/

namespace Url

variable {base : BaseUrl} {reference : String} {cs : List Char}

/-- **A path below an address can be asked for**: it holds no control character, and neither it nor the whole path or
the query, once they are encoded, is longer than a text may be. -/
structure Fits (base : BaseUrl) (reference : String) : Prop where
  short : reference.toList.length ≤ longest
  printable : ∀ c ∈ reference.toList, isControl c = false
  shortPath : (percentEncode keepsInPath (below base (pathOf reference.toList))).length ≤ longest
  shortQuery : (percentEncode keepsInQuery ((queryOf reference.toList).drop 1)).length ≤ longest

theorem firstControl?_eq_none_iff : firstControl? cs = none ↔ ∀ c ∈ cs, isControl c = false := by
  simp only [firstControl?, List.find?_eq_none, Bool.not_eq_true]
  constructor
  · intro h c hc
    obtain ⟨i, hi, rfl⟩ := List.mem_iff_getElem.mp hc
    exact h (cs[i], i) (List.mk_mem_zipIdx_iff_getElem?.mpr (List.getElem?_eq_getElem hi))
  · rintro h ⟨c, i⟩ hentry
    exact h c (List.mem_of_getElem? (List.mk_mem_zipIdx_iff_getElem?.mp hentry))

/-- **Which paths can be asked for.** -/
theorem exists_join_iff : (∃ url, join base reference = .ok url) ↔ Fits base reference := by
  constructor
  · rintro ⟨url, h⟩
    simp only [join] at h
    split at h
    · cases h
    · next hshort =>
      split at h
      · cases h
      · next hnone =>
        split at h
        · cases h
        · next hpath =>
          split at h
          · cases h
          · next hquery =>
            exact
              { short := Nat.le_of_not_lt hshort
                printable := firstControl?_eq_none_iff.mp hnone
                shortPath := Nat.le_of_not_lt hpath
                shortQuery := Nat.le_of_not_lt hquery }
  · intro h
    cases hjoin : join base reference with
    | ok url => exact ⟨url, rfl⟩
    | error fault =>
      simp only [join, if_neg (Nat.not_lt.mpr h.short), firstControl?_eq_none_iff.mpr h.printable,
        if_neg (Nat.not_lt.mpr h.shortPath), if_neg (Nat.not_lt.mpr h.shortQuery)] at hjoin
      cases hjoin

theorem length_flatMap_percentByte (bytes : List UInt8) :
    (bytes.flatMap percentByte).length = 3 * bytes.length := by
  induction bytes with
  | nil => rfl
  | cons b bytes ih =>
    rw [List.flatMap_cons, List.length_append, ih, List.length_cons]
    simp only [percentByte, List.length_cons, List.length_nil]
    omega

/-- A character is written as twelve at most. -/
theorem length_percentEncode_le (keeps : Char → Bool) (cs : List Char) :
    (percentEncode keeps cs).length ≤ 12 * cs.length := by
  induction cs with
  | nil => exact Nat.zero_le _
  | cons c cs ih =>
    have hchar : (if keeps c then [c] else percentChar c).length ≤ 12 := by
      split
      · exact Nat.le_add_left 1 11
      · have hsize : (String.utf8EncodeChar c).length ≤ 4 := by
          rw [String.length_utf8EncodeChar]
          exact c.utf8Size_le_four
        rw [percentChar, length_flatMap_percentByte]
        omega
    rw [percentEncode] at ih ⊢
    rw [List.flatMap_cons, List.length_append, List.length_cons]
    omega

/-- **Short paths fit.** -/
theorem fits_of_short (hlength : reference.toList.length ≤ 5000) (hbase : base.path.length ≤ 400)
    (hprintable : ∀ c ∈ reference.toList, isControl c = false) : Fits base reference := by
  have hlongest : longest = 65536 := rfl
  have hpath : (pathOf reference.toList).length ≤ reference.toList.length :=
    (List.takeWhile_sublist _).length_le
  have hbelow : (below base (pathOf reference.toList)).length ≤ base.path.length + 1 + reference.toList.length := by
    have hdrop := (List.dropWhile_sublist (l := pathOf reference.toList) (· = '/')).length_le
    rw [below, List.length_append, List.length_cons]
    omega
  have hquery : ((queryOf reference.toList).drop 1).length ≤ reference.toList.length :=
    ((List.drop_sublist _ _).trans ((List.takeWhile_sublist _).trans (List.dropWhile_sublist _))).length_le
  have hwritten := length_percentEncode_le keepsInPath (below base (pathOf reference.toList))
  have hwritten' := length_percentEncode_le keepsInQuery ((queryOf reference.toList).drop 1)
  exact
    { short := by omega
      printable := hprintable
      shortPath := by omega
      shortQuery := by omega }

end Url

/-! ### Sending a finding -/

namespace TextMessenger

variable {m : TextMessenger} {f : Finding} {request : TextMessageRequest}

/-- The path below the service that the messages of an account are posted to. -/
def messages (c : Credentials) : String :=
  s!"/Accounts/{c.account}/Messages.json"

/-- **The account makes an address** below the service. -/
def HasAddress (m : TextMessenger) : Prop :=
  Url.Fits m.service (messages m.credentials)

/-- **A request tells of a finding**: it posts a form that is read as the sender, the receiver and the message. -/
structure Tells (m : TextMessenger) (f : Finding) (request : TextMessageRequest) : Prop where
  method : request.method = "POST"
  address : Url.join m.service (messages m.credentials) = .ok request.url
  contentType : request.contentType = "application/x-www-form-urlencoded"
  fields : formFields? request.body =
    some [("From", m.credentials.sender), ("To", m.credentials.receiver), ("Body", f.shortMessage)]

theorem toList_messages (c : Credentials) :
    (messages c).toList = "/Accounts/".toList ++ c.account.toList ++ "/Messages.json".toList := by
  rw [messages, String.toList_append, String.toList_append]
  rfl

/-- **An account of ordinary length makes an address** if it holds no control character. -/
theorem hasAddress_of_short (hlength : m.credentials.account.toList.length ≤ 4900)
    (hservice : m.service.path.length ≤ 400)
    (hprintable : ∀ c ∈ m.credentials.account.toList, Url.isControl c = false) : m.HasAddress := by
  refine Url.fits_of_short ?_ hservice fun c hc => ?_
  · rw [toList_messages]
    simp only [List.length_append, String.length_toList]
    have hlead : "/Accounts/".length = 10 := rfl
    have hend : "/Messages.json".length = 14 := rfl
    simp only [String.length_toList] at hlength
    omega
  · have hfixed : (("/Accounts/".toList ++ "/Messages.json".toList).all fun c => !Url.isControl c) = true := by
      decide +kernel
    rw [toList_messages, List.mem_append, List.mem_append] at hc
    rcases hc with (hc | hc) | hc
    · simpa using List.all_eq_true.mp hfixed c (List.mem_append_left _ hc)
    · exact hprintable c hc
    · simpa using List.all_eq_true.mp hfixed c (List.mem_append_right _ hc)

/-- **Which accounts can be written to.** -/
theorem exists_request_iff : (∃ request, m.request f = .ok request) ↔ m.HasAddress := by
  rw [HasAddress, ← Url.exists_join_iff]
  constructor
  · rintro ⟨request, h⟩
    cases hjoin : Url.join m.service (messages m.credentials) with
    | error fault =>
      rw [TextMessenger.request, ← messages, hjoin] at h
      cases h
    | ok url => exact ⟨url, rfl⟩
  · rintro ⟨url, h⟩
    cases hrequest : m.request f with
    | ok request => exact ⟨request, rfl⟩
    | error fault =>
      rw [TextMessenger.request, ← messages, h] at hrequest
      cases hrequest

/-- **The form of a request is read as the fields of the finding.** -/
theorem tells_of_request (h : m.request f = .ok request) : m.Tells f request := by
  rw [TextMessenger.request, ← messages] at h
  cases hjoin : Url.join m.service (messages m.credentials) with
  | error fault =>
    rw [hjoin] at h
    cases h
  | ok url =>
    rw [hjoin] at h
    cases h
    have hfields : formFields? (formBody (form m.credentials f)) = some (form m.credentials f) :=
      formFields?_formBody (List.cons_ne_nil _ _)
    exact
      { method := rfl
        address := hjoin
        contentType := rfl
        fields := hfields }

/-- Sending a finding makes its request, whatever comes of it, and no other. -/
theorem requests_send (m : TextMessenger) (outcome : GatewayOutcome) (f : Finding) :
    Event.requests (m.send outcome f).1 = (m.request f).toOption.toList := by
  unfold send
  cases hrequest : m.request f with
  | error fault => rfl
  | ok request =>
    cases outcome with
    | unreachable reason => rfl
    | answered status =>
      simp only
      split <;> rfl

end TextMessenger

/-! ### The requests of jobs -/

/-- The request that a sink makes for a payload. -/
def Sink.request? (payload : Payload) (sink : Sink) : Option TextMessageRequest :=
  match sink, payload with
  | .textMessage m, .finding f => (m.request f).toOption
  | _, _ => none

/-- The request that a job makes. -/
def Job.request? (job : Job) : Option TextMessageRequest :=
  job.sink.request? job.payload

theorem Voice.requests_speak (v : Voice) (outcome : SpeechOutcome) (message : String) :
    Event.requests (v.speak outcome message).1 = [] := by
  unfold speak
  split <;> rfl

theorem Sink.requests_accept (around : Surroundings) (index : ℕ) (sink : Sink) (payload : Payload) :
    Event.requests (sink.accept around index payload).1 = (sink.request? payload).toList := by
  cases payload with
  | finding f =>
    cases sink with
    | textMessage m => exact m.requests_send around.gateway f
    | voice v => exact v.requests_speak around.speech f.utterance
    | _ => rfl
  | announcement message =>
    cases sink with
    | voice v => exact v.requests_speak around.speech message
    | _ => rfl

/-- A job makes its request whether or not it fails. -/
theorem Job.requests_perform (around : Surroundings) (job : Job) :
    Event.requests (job.perform around) = job.request?.toList := by
  rw [request?, ← Sink.requests_accept around job.index, perform]
  rcases job.sink.accept around job.index job.payload with ⟨events, _ | failure⟩
  · rfl
  · rw [Event.requests_append]
    exact List.append_nil _

/-- **The requests that are made are those of the jobs**, in their order. -/
theorem CarriesOut.requests_eq {around : Surroundings} {jobs : List Job} {events : List Event}
    (h : CarriesOut around jobs events) : Event.requests events = jobs.filterMap Job.request? := by
  induction h with
  | nil => rfl
  | record r _ ih => exact ih
  | job j _ ih =>
    rw [Event.requests_append, Job.requests_perform, ih, List.filterMap_cons]
    cases j.request? <;> rfl

end SourceWatch
