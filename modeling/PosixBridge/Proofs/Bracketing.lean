import PosixBridge.Proofs.Stubs

/-!
# One host call for each operation, over whole runs

The events of a native run show a call to the host where it is made and the operation where
it returns. Between the two stands what the host did meanwhile, which may be calls of the
bridge again. `Bracketed` says that the events of a run are made up in this way, each pair
by a step of the program: the same operation, the step's arguments, the errno of the caller
at both ends.

> `host_calls_bracketed`: the run of a native program is bracketed. So each reply closes
> exactly one request, no beginning of the run has more replies than requests, and the whole
> run has as many. The unsupported build makes no request at all.

A panic could leave a request open only by leaving the host's code, which no program that
may run does (`Program.contained`); one that is on its way to a recovery outside passes calls
and guards, and these are no brackets. That a reply closes no other request than its own
follows from counting: `Nested` events hold no end of a list in which requests prevail.
-/

namespace PosixBridge

open Procedure Bridge

namespace Event

/-- Whether the event is a call arriving at the host. -/
def isRequest (e : Event) : Bool :=
  match e.report with
  | .host _ _ => true
  | _ => false

/-- Whether the event is an exported operation returning. -/
def isReply (e : Event) : Bool :=
  match e.report with
  | .posix _ _ => true
  | _ => false

end Event

/-- How many calls of the host there are. -/
def requests (events : List Event) : Nat := events.countP Event.isRequest

/-- How many forwarded operations have returned. -/
def replies (events : List Event) : Nat := events.countP Event.isReply

/-- The steps of a script that hold a body, at any depth, each with its body. -/
def Script.scopes {α σ : Type} : Script α σ → List (σ × Script α σ)
  | done => []
  | step _ rest => scopes rest
  | scope head body rest => (head, body) :: (scopes body ++ scopes rest)

namespace HostedCall

/-- The call as the host sees it, from a caller in the state `s`. -/
def request (c : HostedCall) (s : State) : Event := ⟨.host c.op c.args, s.errno⟩

/-- The call's return to a caller in the state `s`, when the host has run `body`. -/
def reply (c : HostedCall) (body : Program) (s : State) : Event :=
  ⟨.posix c.op
    ⟨c.op.result.inBand (c.op.ofHost c.answer) (body.perform .native s).state.errno, .silent⟩,
    s.errno⟩

end HostedCall

/-- Lists of events in which each request is closed by the reply to it, and each such pair
is a step of the program with its body's events in between. -/
inductive Bracketed (p : Program) : List Event → Prop
  | nil : Bracketed p []
  | other {e : Event} {rest : List Event} (hrequest : e.isRequest = false)
      (hreply : e.isReply = false) (hrest : Bracketed p rest) : Bracketed p (e :: rest)
  | exchange {c : HostedCall} {body : Program} {s : State} {rest : List Event}
      (hstep : (.posix c, body) ∈ p.scopes)
      (hreturns : (body.perform .native s).outcome = .returned ())
      (hinside : Bracketed p (body.perform .native s).trace.events)
      (hrest : Bracketed p rest) :
      Bracketed p
        (c.request s :: ((body.perform .native s).trace.events ++ c.reply body s :: rest))

/-- Events that close what they open, and open before they close. -/
structure Nested (events : List Event) : Prop where
  equal : replies events = requests events
  begin_le : ∀ n, replies (events.take n) ≤ requests (events.take n)

/-- The request that a reply after `past` closes: all that was opened since has been closed. -/
structure Closes (past before : List Event) (request : Event) (inside : List Event) : Prop where
  past_eq : past = before ++ request :: inside
  isRequest : request.isRequest = true
  nested : Nested inside

/-! ## Counting -/

theorem requests_append (xs ys : List Event) :
    requests (xs ++ ys) = requests xs + requests ys := List.countP_append

theorem replies_append (xs ys : List Event) : replies (xs ++ ys) = replies xs + replies ys :=
  List.countP_append

theorem Event.not_isReply {e : Event} (h : e.isRequest = true) : e.isReply = false := by
  unfold isRequest at h
  unfold isReply
  split at h
  · next hr => rw [hr]
  · exact absurd h Bool.false_ne_true

theorem Event.not_isRequest {e : Event} (h : e.isReply = true) : e.isRequest = false := by
  cases hr : e.isRequest with
  | false => rfl
  | true => rw [not_isReply hr] at h; exact absurd h Bool.false_ne_true

/-- A request in front opens one more bracket. -/
theorem requests_cons {e : Event} (h : e.isRequest = true) (events : List Event) :
    requests (e :: events) = requests events + 1 := List.countP_cons_of_pos h

theorem replies_cons_request {e : Event} (h : e.isRequest = true) (events : List Event) :
    replies (e :: events) = replies events :=
  List.countP_cons_of_neg (by rw [Event.not_isReply h]; exact Bool.false_ne_true)

namespace Nested

variable {xs ys : List Event}

theorem nil : Nested [] := ⟨rfl, fun n => by rw [List.take_nil]; exact Nat.le_refl _⟩

theorem append (hx : Nested xs) (hy : Nested ys) : Nested (xs ++ ys) := by
  refine ⟨?_, fun n => ?_⟩
  · rw [replies_append, requests_append, hx.equal, hy.equal]
  · rw [List.take_append, replies_append, requests_append]
    exact Nat.add_le_add (hx.begin_le n) (hy.begin_le _)

theorem singleton {e : Event} (hrequest : e.isRequest = false) (hreply : e.isReply = false) :
    Nested [e] := by
  have hzero : ∀ n, replies ([e].take n) = 0 := by
    intro n
    refine List.countP_eq_zero.mpr (fun a ha => ?_)
    rw [List.mem_singleton.mp (List.mem_of_mem_take ha), hreply]
    exact Bool.false_ne_true
  refine ⟨?_, fun n => by rw [hzero n]; exact Nat.zero_le _⟩
  rw [requests, replies, List.countP_singleton, List.countP_singleton, hrequest, hreply]

/-- A request, a nested part and a reply are nested. -/
theorem wrap {request reply : Event} (hx : Nested xs) (hrequest : request.isRequest = true)
    (hreply : reply.isReply = true) : Nested (request :: (xs ++ [reply])) := by
  refine ⟨?_, fun n => ?_⟩
  · have hclose : replies [reply] = 1 := by
      rw [replies, List.countP_singleton, if_pos hreply]
    have hclose' : requests [reply] = 0 := by
      rw [requests, List.countP_singleton, Event.not_isRequest hreply]
      rfl
    rw [requests_cons hrequest, replies_cons_request hrequest, replies_append,
      requests_append, hclose, hclose', hx.equal]
  · cases n with
    | zero => exact Nat.le_refl _
    | succ n =>
      -- The request is ahead by one, which is all that the reply can make up for.
      have hone : replies ([reply].take (n - xs.length)) ≤ 1 :=
        Nat.le_trans List.countP_le_length (by rw [List.length_take]; exact Nat.min_le_right _ _)
      have hbegin := hx.begin_le n
      rw [List.take_succ_cons, requests_cons hrequest, replies_cons_request hrequest,
        List.take_append, replies_append, requests_append]
      omega

/-- No end of nested events begins with a request that stays open. -/
theorem not_open {before : List Event} {request : Event} (hx : Nested xs)
    (hrequest : request.isRequest = true) (hy : Nested ys) : xs ≠ before ++ request :: ys := by
  rintro rfl
  have hbegin := hx.begin_le before.length
  have hequal := hx.equal
  rw [List.take_left] at hbegin
  rw [replies_append, requests_append, requests_cons hrequest, replies_cons_request hrequest,
    hy.equal] at hequal
  omega

end Nested

/-- A list taken apart at two elements: either comes first, or they are one and the same. -/
theorem append_cons_eq_cases {α : Type} {xs ys us vs : List α} {y v : α}
    (h : xs ++ y :: ys = us ++ v :: vs) :
    (∃ between, xs = us ++ v :: between ∧ vs = between ++ y :: ys) ∨
    (xs = us ∧ y = v ∧ ys = vs) ∨
    ∃ between, us = xs ++ y :: between ∧ ys = between ++ v :: vs := by
  rcases List.append_eq_append_iff.mp h with ⟨as, hus, hcons⟩ | ⟨as, hxs, hcons⟩
  · cases as with
    | nil =>
      obtain ⟨hy, hys⟩ := List.cons.inj hcons
      exact .inr (.inl ⟨by rw [hus, List.append_nil], hy, hys⟩)
    | cons a as =>
      obtain ⟨rfl, hys⟩ := List.cons.inj hcons
      exact .inr (.inr ⟨as, hus, hys⟩)
  · cases as with
    | nil =>
      obtain ⟨hv, hvs⟩ := List.cons.inj hcons
      exact .inr (.inl ⟨by rw [hxs, List.append_nil], hv.symm, hvs.symm⟩)
    | cons a as =>
      obtain ⟨rfl, hvs⟩ := List.cons.inj hcons
      exact .inl ⟨as, hxs, hvs⟩

/-- A reply closes one request only. -/
theorem Closes.unique {past before before' inside inside' : List Event} {request request' : Event}
    (h : Closes past before request inside) (h' : Closes past before' request' inside') :
    before' = before ∧ request' = request ∧ inside' = inside := by
  rcases append_cons_eq_cases (h.past_eq.symm.trans h'.past_eq) with
    ⟨between, -, hinside⟩ | ⟨hbefore, hrequest, hinside⟩ | ⟨between, -, hinside⟩
  · exact absurd hinside (h'.nested.not_open h.isRequest h.nested)
  · exact ⟨hbefore.symm, hrequest.symm, hinside.symm⟩
  · exact absurd hinside (h.nested.not_open h'.isRequest h'.nested)

/-! ## Bracketed events -/

namespace Bracketed

variable {p : Program} {xs ys : List Event}

theorem append (hx : Bracketed p xs) (hy : Bracketed p ys) : Bracketed p (xs ++ ys) := by
  induction hx with
  | nil => exact hy
  | other hrequest hreply _ ih => exact .other hrequest hreply ih
  | exchange hstep hreturns hinside _ _ ih =>
    rw [List.cons_append, List.append_assoc, List.cons_append]
    exact .exchange hstep hreturns hinside ih

theorem singleton {e : Event} (hrequest : e.isRequest = false) (hreply : e.isReply = false) :
    Bracketed p [e] := .other hrequest hreply .nil

/-- What is bracketed is nested: each reply has its request before it. -/
theorem nested (hx : Bracketed p xs) : Nested xs := by
  induction hx with
  | nil => exact .nil
  | @other e rest hrequest hreply _ ih => exact (Nested.singleton hrequest hreply).append ih
  | @exchange c body s rest _ _ _ _ ihinside ihrest =>
    have hrequest : (c.request s).isRequest = true := rfl
    have hreply : (c.reply body s).isReply = true := rfl
    have hpair := ihinside.wrap hrequest hreply
    have hall := hpair.append ihrest
    rwa [List.cons_append, List.append_assoc, List.singleton_append] at hall

/-- The request that a reply closes. -/
theorem closes (hx : Bracketed p xs) {past future : List Event} {e : Event}
    (hsplit : xs = past ++ e :: future) (he : e.isReply = true) :
    ∃ (c : HostedCall) (body : Program) (s : State) (before : List Event),
      (.posix c, body) ∈ p.scopes ∧ e = c.reply body s ∧
      Closes past before (c.request s) (body.perform .native s).trace.events := by
  induction hx generalizing past future with
  | nil => exact absurd hsplit (by simp)
  | @other e' rest hrequest hreply _ ih =>
    cases past with
    | nil =>
      obtain ⟨rfl, -⟩ := List.cons.inj hsplit
      rw [hreply] at he
      exact absurd he Bool.false_ne_true
    | cons a past =>
      obtain ⟨rfl, hrest⟩ := List.cons.inj hsplit
      obtain ⟨c, body, s, before, hstep, hanswer, hcloses⟩ := ih hrest
      exact ⟨c, body, s, e' :: before, hstep, hanswer,
        congrArg (List.cons e') hcloses.past_eq, rfl, hcloses.nested⟩
  | @exchange c body s rest hstep hreturns hinside _ ihinside ihrest =>
    cases past with
    | nil =>
      obtain ⟨rfl, -⟩ := List.cons.inj hsplit
      exact absurd he Bool.false_ne_true
    | cons a past =>
      obtain ⟨rfl, hrest⟩ := List.cons.inj hsplit
      rcases append_cons_eq_cases hrest with
        ⟨between, hearlier, -⟩ | ⟨hpast, rfl, -⟩ | ⟨between, hpast, hlater⟩
      · -- The reply is inside this exchange.
        obtain ⟨c', body', s', before, hstep', hanswer, hcloses⟩ := ihinside hearlier
        exact ⟨c', body', s', c.request s :: before, hstep', hanswer,
          congrArg (List.cons (c.request s)) hcloses.past_eq, rfl, hcloses.nested⟩
      · -- It is the reply to this very request.
        exact ⟨c, body, s, [], hstep, rfl, congrArg _ hpast.symm, rfl, hinside.nested⟩
      · obtain ⟨c', body', s', before, hstep', hanswer, hcloses⟩ := ihrest hlater
        refine ⟨c', body', s', c.request s ::
            ((Program.perform .native body s).trace.events ++ c.reply body s :: before),
          hstep', hanswer, ?_, rfl, hcloses.nested⟩
        rw [hpast, hcloses.past_eq, List.cons_append, List.append_assoc, List.cons_append]

/-- Without forwarded operations there are no requests. -/
theorem not_isRequest (hx : Bracketed p xs) (hp : ∀ c body, (.posix c, body) ∉ p.scopes)
    {e : Event} (he : e ∈ xs) : e.isRequest = false := by
  induction hx with
  | nil => exact absurd he List.not_mem_nil
  | other hrequest _ _ ih =>
    rcases List.mem_cons.mp he with rfl | he
    · exact hrequest
    · exact ih he
  | @exchange c body s rest hstep _ _ _ _ _ => exact absurd hstep (hp c body)

end Bracketed

/-! ## Runs -/

namespace Program

/-- No panic leaves the host's code in a program that may run. -/
theorem host_returns {p : Program} (hp : contained p = true) {c : HostedCall} {body : Program}
    (hstep : (.posix c, body) ∈ p.scopes) : mayPanic body = false := by
  induction p with
  | done => exact absurd hstep List.not_mem_nil
  | step a rest ih => exact ih hp hstep
  | scope head body' rest ihb ihr =>
    rw [contained, Bool.and_eq_true, Bool.and_eq_true] at hp
    obtain ⟨⟨hconfined, hbody⟩, hrest⟩ := hp
    rcases List.mem_cons.mp hstep with heq | hin
    · obtain ⟨rfl, rfl⟩ := Prod.mk.inj heq
      simpa [Scope.confines] using hconfined
    · rcases List.mem_append.mp hin with hin | hin
      · exact ihb hbody hin
      · exact ihr hrest hin

/-- A step around a bracketed body: the pair of a forwarded operation, or no bracket. -/
theorem bracketed_step {q body : Program} {head : Scope HostedCall} {s t : State} {trace : Trace}
    {ended : Outcome Unit} (hb : perform .native body (head.inner s) = ⟨trace, t, ended⟩)
    (hstep : (head, body) ∈ q.scopes) (hreturns : ∀ c, head = .posix c → mayPanic body = false)
    (hbody : Bracketed q trace.events) :
    Bracketed q (Trace.events (head.opening s) ++
      (trace.events ++ Trace.events (head.ending s t ended))) := by
  cases head with
  | posix c =>
    have hended := perform_outcome body s
    rw [hreturns c rfl, if_neg Bool.false_ne_true] at hended
    rw [Scope.inner] at hb
    obtain rfl : ended = .returned () := by rw [hb] at hended; exact hended
    have hpair : Bracketed q (c.request s ::
        ((perform .native body s).trace.events ++ c.reply body s :: [])) :=
      .exchange hstep hended (by rw [hb]; exact hbody) .nil
    rw [HostedCall.reply, hb] at hpair
    exact hpair
  | call | guard | recover | thread =>
    refine hbody.append ?_
    unfold Scope.ending
    split
    · exact .singleton rfl rfl
    · exact .nil

/-- The events of a run are bracketed by the steps of any program that holds its own, as long
as the host returns from all of them. -/
theorem bracketed_perform {q : Program}
    (hreturns : ∀ {c body}, (.posix c, body) ∈ q.scopes → mayPanic body = false)
    (p : Program) (hp : ∀ x ∈ p.scopes, x ∈ q.scopes) (s : State) :
    Bracketed q (perform .native p s).trace.events := by
  induction p generalizing s with
  | done => exact .nil
  | step a rest ih =>
    have hrequest : Event.isRequest ⟨a.reported s, (a.after s).errno⟩ = false := by
      cases a <;> rfl
    have hreply : Event.isReply ⟨a.reported s, (a.after s).errno⟩ = false := by
      cases a <;> rfl
    cases ha : a.panics with
    | true => rw [perform_step_of_panics ha]; exact .singleton hrequest hreply
    | false => rw [perform_step ha]; exact .other hrequest hreply (ih hp _)
  | scope head body rest ihb ihr =>
    have hstep : (head, body) ∈ q.scopes := hp _ (List.mem_cons_self ..)
    have hbody := ihb
      (fun x hx => hp x (List.mem_cons_of_mem _ (List.mem_append_left _ hx))) (head.inner s)
    have hrest := ihr (fun x hx => hp x (List.mem_cons_of_mem _ (List.mem_append_right _ hx)))
    rcases hb : perform .native body (head.inner s) with ⟨trace, t, ended⟩
    rw [hb] at hbody
    have hscope : Bracketed q (Trace.events
        (head.opening s ++ (trace ++ (head.closing s t ++ head.ending s t ended)))) := by
      rw [head.events_step]
      exact bracketed_step hb hstep (fun c hc => hreturns (hc ▸ hstep)) hbody
    cases hended : head.outcome ended with
    | panicked =>
      rw [perform_scope_of_panicked hb hended]
      rwa [Scope.ending, hended, List.append_nil] at hscope
    | returned u =>
      rw [perform_scope hb hended, Trace.events_append]
      exact hscope.append (hrest _)

/-- The events of a whole run are bracketed if no panic leaves a host's body. -/
theorem bracketed_execute {q : Program}
    (hreturns : ∀ {c body}, (.posix c, body) ∈ q.scopes → mayPanic body = false) :
    Bracketed q (events .native q) := by
  have hrun := bracketed_perform hreturns q (fun _ hx => hx) .initial
  rw [events_apply]
  refine hrun.append ?_
  split
  · exact .singleton rfl rfl
  · exact .nil

/-- No forwarded operation is left among stubs. -/
theorem posix_not_mem_stubbed (p : Program) (c : HostedCall) (body : Program) :
    (.posix c, body) ∉ (stubbed p).scopes := by
  induction p with
  | done => exact List.not_mem_nil
  | step a rest ih => exact ih
  | scope head body' rest ihb ihr =>
    rw [stubbed]
    cases hhead : head.exported? with
    | some c' => exact ihr
    | none =>
      intro hmem
      rcases List.mem_cons.mp hmem with heq | hin
      · obtain ⟨rfl, -⟩ := Prod.mk.inj heq
        exact absurd hhead (by simp [Scope.exported?])
      · exact (List.mem_append.mp hin).elim ihb ihr

/-- The unsupported build never calls the host. -/
theorem unsupported_not_isRequest (p : Program) {e : Event} (he : e ∈ events .unsupported p) :
    e.isRequest = false := by
  have hstub : e.asStub ∈ events .native p.stubbed := by
    rw [events, ← asStub_execute_unsupported]
    exact (Trace.events_map_asStub _).symm ▸ List.mem_map_of_mem he
  have hbrackets : Bracketed p.stubbed (events .native p.stubbed) :=
    bracketed_execute fun hstep => absurd hstep (posix_not_mem_stubbed p _ _)
  have hnone := hbrackets.not_isRequest (posix_not_mem_stubbed p) hstub
  obtain ⟨report, errno⟩ := e
  cases report with
  | host op args => exact hnone
  | _ => rfl

end Program

open Program in
/-- **One host call for each operation.** In the run of a program that may run natively,
requests to the host and replies are brackets around what the host does. A reply closes one
request and no other: that of the same operation, with the arguments of a step of the program
and with the errno that the reply finds again, and what the step's body does is all that
happens in between. No beginning of the run has more replies than requests, and the whole run
has as many, however it ends. The unsupported build makes no request in any run. -/
theorem host_calls_bracketed (p : Program) (h : p.permit .native = .ok ()) :
    Bracketed p (events .native p) ∧
    (∀ past e future, events .native p = past ++ e :: future → e.isReply = true →
      ∃ (c : HostedCall) (body : Program) (s : State) (before : List Event),
        (.posix c, body) ∈ p.scopes ∧ e = c.reply body s ∧
        Closes past before (c.request s) (perform .native body s).trace.events ∧
        ∀ before' request' inside', Closes past before' request' inside' →
          before' = before ∧ request' = c.request s ∧
            inside' = (perform .native body s).trace.events) ∧
    (∀ past future, events .native p = past ++ future → replies past ≤ requests past) ∧
    replies (events .native p) = requests (events .native p) ∧
    ∀ q : Program, ∀ e ∈ events .unsupported q, e.isRequest = false := by
  have hbrackets : Bracketed p (events .native p) :=
    bracketed_execute (host_returns (contained_of_permit h))
  refine ⟨hbrackets, ?_, ?_, hbrackets.nested.equal, fun q e => unsupported_not_isRequest q⟩
  · intro past e future hsplit he
    obtain ⟨c, body, s, before, hstep, hreply, hcloses⟩ := hbrackets.closes hsplit he
    exact ⟨c, body, s, before, hstep, hreply, hcloses, fun _ _ _ h' => hcloses.unique h'⟩
  · intro past future hsplit
    have hbegin := hbrackets.nested.begin_le past.length
    rwa [hsplit, List.take_left] at hbegin

open Program in
/-- A host that calls back before it fails, in a program that ends in a panic: two requests,
two replies. -/
theorem host_calls_bracketed_reentrant :
    let dup : HostedCall := ⟨⟨.dup, .cons 3#32 .nil⟩, 4#32⟩
    let close : HostedCall := ⟨⟨.close, .cons 3#32 .nil⟩, ReturnType.int.sentinel⟩
    let p : Program :=
      .scope (.posix close) (.scope (.posix dup) .done (.step (.set 4) .done)) (.step .panic .done)
    p.permit .native = .ok () ∧ requests (events .native p) = 2 ∧
      replies (events .native p) = 2 ∧ Bracketed p (events .native p) := by
  intro dup close p
  have hpermit : p.permit .native = .ok () := rfl
  obtain ⟨hbrackets, -, -, hequal, -⟩ := host_calls_bracketed p hpermit
  have htwo : requests (events .native p) = 2 := by decide +kernel
  exact ⟨hpermit, htwo, hequal.trans htwo, hbrackets⟩

end PosixBridge
