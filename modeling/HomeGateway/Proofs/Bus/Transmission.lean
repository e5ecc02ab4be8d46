import Mathlib
import HomeGateway.Proofs.Bus.Channel

/-!
What goes out to the bus. A request that is refused leaves the protocol as it was; one that is
taken is the next on the channel, and waits in the list of queries exactly if it has time to. So
what the driver found on the channel, and what it will find there, is what was taken, in order,
and a run might as well have left out all that was refused.
-/

namespace HomeGateway

namespace TransmitQueue

/-- Nobody takes frames at the other end, or there is no room. -/
def IsBlocked (q : TransmitQueue) : Prop := q.isOpen = false ∨ q.depth ≤ q.frames.length

def put (q : TransmitQueue) (frame : RawFrame) : TransmitQueue :=
  { q with frames := q.frames ++ [frame] }

theorem push?_cases (q : TransmitQueue) (frame : RawFrame) :
    (q.IsBlocked ∧ q.push? frame = none) ∨
      (¬q.IsBlocked ∧ q.push? frame = some (q.put frame)) := by
  unfold TransmitQueue.push? IsBlocked
  by_cases hroom : q.isOpen = true ∧ q.frames.length < q.depth
  · exact .inr ⟨by simp [hroom.1, hroom.2], by rw [if_pos (by simpa using hroom)]; rfl⟩
  · refine .inl ⟨?_, by rw [if_neg (by simpa using hroom)]⟩
    cases hopen : q.isOpen with
    | false => exact .inl rfl
    | true => exact .inr (Nat.not_lt.mp fun hlt => hroom ⟨hopen, hlt⟩)

end TransmitQueue

/-- The code that a query was refused with. -/
def QueryStart.code? : QueryStart → Option Int
  | .refused code => some code
  | _ => none

/-- The code that a request was refused with. -/
def refusal? : Except Int Unit → Option Int
  | .error code => some code
  | .ok () => none

/-- What comes of a request that may wait for the given time: it is refused with a code, or not. -/
structure Arbiter.Transmits (a : Arbiter) (did : BusDeviceId) (request : BusFrame)
    (timeout : Duration) (code? : Option Int) (next : Arbiter) : Prop where
  invalid : code? = some invalidRequest ↔ request.did ≠ did ∨ request.isResponse = true
  blocked : code? = some noBuffers ↔
    (request.did = did ∧ request.isResponse = false) ∧ a.transmit.IsBlocked
  refused : ∀ code, code? = some code → (code = invalidRequest ∨ code = noBuffers) ∧ next = a
  put : code? = none → next.transmit = a.transmit.put request.toRaw
  waits : code? = none → next.outstanding = a.outstanding ++
    if timeout = 0 then [] else [{ handle := a.nextHandle, did, request, remaining := timeout }]
  named : code? = none →
    next.nextHandle = if timeout = 0 then a.nextHandle else handleAfter a.nextHandle

namespace Arbiter

variable {a : Arbiter} {did : BusDeviceId} {request : BusFrame} {timeout : Duration}

theorem send_transmits (a : Arbiter) (did : BusDeviceId) (request : BusFrame) :
    a.Transmits did request 0 (refusal? (a.send did request).1) (a.send did request).2 := by
  unfold Arbiter.send
  by_cases hinvalid : request.did ≠ did ∨ request.isResponse = true
  · rw [if_pos hinvalid]
    refine ⟨iff_of_true rfl hinvalid, iff_of_false (by simp [refusal?, invalidRequest, noBuffers])
      ?_, ?_, nofun, nofun, nofun⟩
    · rintro ⟨⟨hdid, hquery⟩, -⟩
      exact hinvalid.elim (fun h => h hdid) fun h => Bool.false_ne_true (hquery.symm.trans h)
    · rintro code ⟨⟩
      exact ⟨.inl rfl, rfl⟩
  · rw [if_neg hinvalid]
    have hvalid : request.did = did ∧ request.isResponse = false := by simpa using hinvalid
    rcases a.transmit.push?_cases request.toRaw with ⟨hblocked, hpush⟩ | ⟨hroom, hpush⟩
    · rw [hpush]
      refine ⟨iff_of_false (by simp [refusal?, invalidRequest, noBuffers]) hinvalid,
        iff_of_true rfl ⟨hvalid, hblocked⟩, ?_, nofun, nofun, nofun⟩
      rintro code ⟨⟩
      exact ⟨.inr rfl, rfl⟩
    · rw [hpush]
      exact ⟨iff_of_false nofun hinvalid, iff_of_false nofun fun h => hroom h.2, nofun,
        fun _ => rfl, fun _ => by simp, fun _ => rfl⟩

/-- A query is what is sent, and then waits. -/
theorem query_transmits (a : Arbiter) (did : BusDeviceId) (request : BusFrame)
    (timeout : Duration) :
    a.Transmits did request timeout (a.query did request timeout).1.code?
      (a.query did request timeout).2 := by
  have hsent := a.send_transmits did request
  unfold Arbiter.query
  rcases a.send_pushes did request with ⟨code, hsend⟩ | hsend
  · rw [hsend] at hsent ⊢
    exact ⟨hsent.invalid, hsent.blocked, hsent.refused, nofun, nofun, nofun⟩
  · rw [hsend] at hsent ⊢
    by_cases hzero : timeout = 0
    · simp only [hzero, if_true]
      exact hsent
    · simp only [hzero, if_false]
      exact ⟨hsent.invalid, hsent.blocked, nofun, fun _ => rfl, fun _ => by simp [hzero],
        fun _ => by simp [hzero]⟩

/-- A query that is taken is named if it waits. -/
theorem query_starts (a : Arbiter) (did : BusDeviceId) (request : BusFrame) (timeout : Duration)
    (htaken : (a.query did request timeout).1.code? = none) :
    (a.query did request timeout).1 = if timeout = 0 then .sent else .waiting a.nextHandle := by
  unfold Arbiter.query at htaken ⊢
  rcases a.send_pushes did request with ⟨code, hsend⟩ | hsend
  · rw [hsend] at htaken
    cases htaken
  · rw [hsend]
    by_cases hzero : timeout = 0 <;> simp [hzero]

/-! What a call that lets time pass leaves of the queries. -/

theorem takeAnswered_sublist {frame : BusFrame} {outstanding rest : List Outstanding}
    {found : Outstanding} (h : takeAnswered frame outstanding = some (found, rest)) :
    rest.Sublist outstanding := by
  induction outstanding generalizing rest with
  | nil => cases h
  | cons q others ih =>
    unfold takeAnswered at h
    split at h
    · cases h
      exact List.sublist_cons_self _ _
    · obtain ⟨⟨found', left⟩, htake, heq⟩ := Option.map_eq_some_iff.mp h
      cases heq
      exact (ih htake).cons_cons q

theorem resolve_sublist (frame : BusFrame) (outstanding : List Outstanding) :
    (resolve frame outstanding).2.Sublist outstanding := by
  unfold resolve
  split
  · cases htake : takeAnswered frame outstanding with
    | none => exact List.Sublist.refl outstanding
    | some found => exact takeAnswered_sublist htake
  · exact List.Sublist.refl outstanding

/-- Time takes queries out and changes none. -/
theorem expire_requests (elapsed : Duration) (outstanding : List Outstanding) :
    ((expire elapsed outstanding).2.map Outstanding.request).Sublist
      (outstanding.map Outstanding.request) := by
  have hless : (expire elapsed outstanding).2.Sublist (outstanding.map (age elapsed)) :=
    List.filter_sublist
  simpa [Function.comp_def, age] using hless.map Outstanding.request

theorem process_requests (a : Arbiter) (elapsed : Duration) (frame : Option BusFrame) :
    ((a.process elapsed frame).2.outstanding.map Outstanding.request).Sublist
      (a.outstanding.map Outstanding.request) := by
  cases frame with
  | none => exact expire_requests elapsed a.outstanding
  | some f =>
    exact (expire_requests elapsed _).trans ((resolve_sublist f a.outstanding).map _)

end Arbiter

/-- What is asked of the protocol, and what the driver does at the other end of the channel: it
takes frames, closes the channel and still takes what is on it, or goes away. -/
inductive ChannelStep where
  | query (did : BusDeviceId) (request : BusFrame) (timeout : Duration)
  | send (did : BusDeviceId) (request : BusFrame)
  | process (elapsed : Duration) (frame : Option BusFrame)
  | carry (count : Nat)
  | close
  | leave

/-- A request that was taken, and whether it waits for an answer. -/
structure Taken where
  request : BusFrame
  waits : Bool

/-- The protocol, with what it took, what the driver got, and what was on the channel when the
driver went away. -/
structure Outlet where
  arbiter : Arbiter
  taken : List Taken
  carried : List RawFrame
  lost : List RawFrame

namespace Outlet

def new (depth : Nat) : Outlet := { arbiter := .new depth, taken := [], carried := [], lost := [] }

/-- What a request adds to what was taken. -/
def adds (request : BusFrame) (timeout : Duration) (code? : Option Int) : List Taken :=
  if code?.isNone then [{ request, waits := decide (timeout ≠ 0) }] else []

def step (o : Outlet) : ChannelStep → Outlet
  | .query did request timeout =>
    let (start, arbiter) := o.arbiter.query did request timeout
    { o with arbiter, taken := o.taken ++ adds request timeout start.code? }
  | .send did request =>
    let (result, arbiter) := o.arbiter.send did request
    { o with arbiter, taken := o.taken ++ adds request 0 (refusal? result) }
  | .process elapsed frame => { o with arbiter := (o.arbiter.process elapsed frame).2 }
  | .carry count =>
    let transmit := o.arbiter.transmit
    { o with
      arbiter.transmit := { transmit with frames := transmit.frames.drop count }
      carried := o.carried ++ transmit.frames.take count }
  | .close => { o with arbiter.transmit.isOpen := false }
  | .leave =>
    { o with arbiter := o.arbiter.disconnect, lost := o.lost ++ o.arbiter.transmit.frames }

def run (steps : List ChannelStep) (o : Outlet) : Outlet := steps.foldl step o

/-- The step is a request, and it is refused. -/
def isRefused (o : Outlet) : ChannelStep → Bool
  | .query did request timeout => (o.arbiter.query did request timeout).1.code?.isSome
  | .send did request => (refusal? (o.arbiter.send did request).1).isSome
  | _ => false

/-- A run without the requests that are refused in it. -/
def unrefused (o : Outlet) : List ChannelStep → List ChannelStep
  | [] => []
  | s :: rest => if o.isRefused s then (o.step s).unrefused rest else s :: (o.step s).unrefused rest

/-- How the frames and the queries stand to what was taken. -/
structure Conserves (o : Outlet) : Prop where
  /-- No frame is lost as long as somebody is there to take it. -/
  gone : o.lost = [] ∨ o.arbiter.transmit.frames = [] ∧ o.arbiter.transmit.isOpen = false
  frames : o.carried ++ o.lost ++ o.arbiter.transmit.frames =
    o.taken.map fun t => t.request.toRaw
  handles : o.arbiter.nextHandle = handleOf (o.taken.countP Taken.waits)
  waiting : (o.arbiter.outstanding.map Outstanding.request).Sublist
    ((o.taken.filter Taken.waits).map Taken.request)

variable {o : Outlet} {did : BusDeviceId} {request : BusFrame} {timeout : Duration}
  {code? : Option Int} {next : Arbiter}

theorem new_conserves (depth : Nat) : (new depth).Conserves where
  gone := .inl rfl
  frames := rfl
  handles := rfl
  waiting := List.Sublist.refl []

theorem adds_refused {code : Int} : adds request timeout (some code) = [] := rfl

theorem adds_taken :
    adds request timeout none = [{ request, waits := decide (timeout ≠ 0) }] := rfl

/-- What is lost lies between what was got and what is on the channel, unless one of the two is
nothing. -/
theorem take_lost_drop {carried lost frames : List RawFrame} (count : Nat)
    (h : lost = [] ∨ frames = []) :
    carried ++ frames.take count ++ lost ++ frames.drop count = carried ++ lost ++ frames := by
  rcases h with rfl | rfl
  · rw [List.append_nil, List.append_nil, List.append_assoc, List.take_append_drop]
  · rw [List.take_nil, List.drop_nil, List.append_nil carried]

/-- A request is taken with its frame and its handle, or changes nothing. -/
theorem Conserves.ask (h : o.Conserves)
    (hnext : o.arbiter.Transmits did request timeout code? next) :
    Conserves { o with arbiter := next, taken := o.taken ++ adds request timeout code? } := by
  cases code? with
  | some code =>
    obtain ⟨-, rfl⟩ := hnext.refused code rfl
    rw [adds_refused, List.append_nil]
    exact h
  | none =>
    have hopen : ¬o.arbiter.transmit.IsBlocked := by
      intro hblocked
      by_cases hinvalid : request.did ≠ did ∨ request.isResponse = true
      · cases hnext.invalid.mpr hinvalid
      · cases hnext.blocked.mpr ⟨by simpa using hinvalid, hblocked⟩
    rw [adds_taken]
    constructor
    · exact .inl (h.gone.resolve_right fun hgone => hopen (.inl hgone.2))
    · simp only [hnext.put rfl, TransmitQueue.put, List.map_append, List.map_cons, List.map_nil]
      rw [← List.append_assoc, h.frames]
    · rw [hnext.named rfl, h.handles, List.countP_append]
      by_cases hzero : timeout = 0
      · simp [hzero]
      · simp [hzero, handleAfter_handleOf]
    · rw [hnext.waits rfl, List.map_append, List.filter_append, List.map_append]
      refine h.waiting.append ?_
      by_cases hzero : timeout = 0 <;> simp [hzero]

theorem Conserves.step (h : o.Conserves) (s : ChannelStep) : (o.step s).Conserves := by
  cases s with
  | query did request timeout => exact h.ask (o.arbiter.query_transmits did request timeout)
  | send did request => exact h.ask (o.arbiter.send_transmits did request)
  | process elapsed frame =>
    exact ⟨h.gone, h.frames, h.handles,
      (o.arbiter.process_requests elapsed frame).trans h.waiting⟩
  | carry count =>
    refine ⟨h.gone.imp_right fun hgone => ⟨?_, hgone.2⟩, ?_, h.handles, h.waiting⟩
    · change o.arbiter.transmit.frames.drop count = []
      rw [hgone.1, List.drop_nil]
    · exact (take_lost_drop count (h.gone.imp_right And.left)).trans h.frames
  | close => exact ⟨h.gone.imp_right fun hgone => ⟨hgone.1, rfl⟩, h.frames, h.handles, h.waiting⟩
  | leave =>
    refine ⟨.inr ⟨rfl, rfl⟩, ?_, h.handles, h.waiting⟩
    change o.carried ++ (o.lost ++ o.arbiter.transmit.frames) ++ [] = _
    rw [List.append_nil, ← List.append_assoc, h.frames]
    rfl

theorem Conserves.run (h : o.Conserves) (steps : List ChannelStep) : (run steps o).Conserves := by
  induction steps generalizing o with
  | nil => exact h
  | cons s rest ih => exact ih (h.step s)

/-- A request that is refused changes nothing. -/
theorem step_of_isRefused {s : ChannelStep} (h : o.isRefused s = true) : o.step s = o := by
  cases s with
  | query did request timeout =>
    obtain ⟨code, hcode⟩ := Option.isSome_iff_exists.mp h
    have hsame := ((o.arbiter.query_transmits did request timeout).refused code hcode).2
    simp only [Outlet.step, hsame, hcode, adds_refused, List.append_nil]
  | send did request =>
    obtain ⟨code, hcode⟩ := Option.isSome_iff_exists.mp h
    have hsame := ((o.arbiter.send_transmits did request).refused code hcode).2
    simp only [Outlet.step, hsame, hcode, adds_refused, List.append_nil]
  | process | carry | close | leave => cases h

theorem run_unrefused (o : Outlet) (steps : List ChannelStep) :
    run (o.unrefused steps) o = run steps o := by
  induction steps generalizing o with
  | nil => rfl
  | cons s rest ih =>
    cases hrefused : o.isRefused s with
    | true =>
      have hsame := step_of_isRefused hrefused
      calc run (o.unrefused (s :: rest)) o = run (o.unrefused rest) o := by
            rw [unrefused, if_pos hrefused, hsame]
        _ = run rest o := ih o
        _ = run (s :: rest) o := by rw [run, run, List.foldl_cons, hsame]
    | false =>
      calc run (o.unrefused (s :: rest)) o = run ((o.step s).unrefused rest) (o.step s) := by
            rw [unrefused, if_neg (by simp [hrefused])]
            rfl
        _ = run (s :: rest) o := ih (o.step s)

/-- What requests do in a state, and what all requests of the run have done. -/
structure Traceless (o : Outlet) : Prop where
  query : ∀ did request timeout, o.arbiter.Transmits did request timeout
    (o.arbiter.query did request timeout).1.code? (o.arbiter.query did request timeout).2
  start : ∀ did request timeout, (o.arbiter.query did request timeout).1.code? = none →
    (o.arbiter.query did request timeout).1 =
      if timeout = 0 then .sent else .waiting o.arbiter.nextHandle
  send : ∀ did request, o.arbiter.Transmits did request 0
    (refusal? (o.arbiter.send did request).1) (o.arbiter.send did request).2
  conserves : o.Conserves

/-- In every state of a run, requests are refused without a trace or go to the end of the channel,
and what the driver got, with what is left for it, is what was taken. -/
theorem run_traceless (depth : Nat) (steps : List ChannelStep) :
    (run steps (new depth)).Traceless ∧
      run ((new depth).unrefused steps) (new depth) = run steps (new depth) where
  left :=
    { query := Arbiter.query_transmits _
      start := Arbiter.query_starts _
      send := Arbiter.send_transmits _
      conserves := (new_conserves depth).run steps }
  right := run_unrefused (new depth) steps

/-- On a channel for one frame, the query after the first request is refused and takes no name: the
one after that is the first. -/
example :
    let request := BusFrame.telemetryQuery ⟨8⟩ .boardControl
    let o := run [.send ⟨8⟩ request, .query ⟨8⟩ request 100, .carry 1, .query ⟨8⟩ request 100,
      .close, .send ⟨8⟩ request] (new 1)
    o.carried = [request.toRaw] ∧ o.arbiter.transmit.frames = [request.toRaw] ∧
      o.arbiter.outstanding.map Outstanding.handle = [1] ∧ o.arbiter.nextHandle = 2 := by
  decide

end Outlet

end HomeGateway
