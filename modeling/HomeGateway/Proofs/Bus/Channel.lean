import Mathlib
import HomeGateway.Proofs.Bus.Caller
import HomeGateway.Proofs.Bus.Ledger

/-!
The way to the bus. A frame goes out when the worker accepts a submission that the protocol takes,
and at no other time: it is the request of that submission. A caller hears of its query only from
there on, and what it hears tells whether the frame went out.
-/

namespace HomeGateway

/-- The protocol took the query. -/
def QueryStart.isTaken : QueryStart → Bool
  | .refused _ => false
  | _ => true

namespace Submission

def request : Submission → BusFrame
  | .query _ _ request _ _ => request
  | .send _ request => request

/-- What goes out if the protocol takes it. -/
def raw (submission : Submission) : RawFrame := submission.request.toRaw

/-- The answer of the protocol. -/
def accepted (a : Arbiter) : Submission → Bool
  | .query _ did request timeout _ => (a.query did request timeout).1.isTaken
  | .send did request => (a.send did request).1.isOk

/-- The frames that go out. -/
def puts (a : Arbiter) (submission : Submission) : List RawFrame :=
  if submission.accepted a then [submission.raw] else []

end Submission

namespace Arbiter

theorem send_frames (a : Arbiter) (did : BusDeviceId) (request : BusFrame) :
    (a.send did request).2.transmit.frames =
      a.transmit.frames ++ (Submission.send did request).puts a := by
  unfold Submission.puts Submission.accepted
  rcases a.send_pushes did request with ⟨code, hsend⟩ | hsend
  · simp [hsend, Except.isOk, Except.toBool]
  · simp [hsend, Except.isOk, Except.toBool, Submission.raw, Submission.request]

theorem query_frames (a : Arbiter) (did : BusDeviceId) (request : BusFrame) (timeout : Duration)
    (ticket : Nat) (submitted : Instant) :
    (a.query did request timeout).2.transmit.frames =
      a.transmit.frames ++ (Submission.query ticket did request timeout submitted).puts a := by
  unfold Submission.puts Submission.accepted Arbiter.query
  rcases a.send_pushes did request with ⟨code, hsend⟩ | hsend
  · simp [hsend, QueryStart.isTaken]
  · by_cases hzero : timeout = 0 <;>
      simp [hsend, hzero, QueryStart.isTaken, Submission.raw, Submission.request]

/-- Without a frame, only time runs out. -/
theorem process_idle (a : Arbiter) (elapsed : Duration) :
    ∀ event ∈ (a.process elapsed none).1, event.frame? = none := by
  intro event hevent
  obtain ⟨q, -, rfl⟩ := List.mem_map.mp hevent
  rfl

end Arbiter

namespace Worker

variable {parked : List Parked} {now : Instant}

/-- What is said of one event of the protocol. -/
theorem handle_says (parked : List Parked) (now : Instant) (event : ProtocolEvent) :
    (handle parked now event).2 ⊆ parked ∧
      ∀ notice ∈ (handle parked now event).1,
        (∃ frame, event.frame? = some frame ∧ notice = .telemetry frame) ∨
          ∃ p ∈ parked, ∃ status response elapsed,
            notice = .completion p.ticket (.completed status response) elapsed := by
  cases event with
  | unsolicited frame =>
    exact ⟨List.Subset.refl parked,
      fun notice hnotice => .inl (frame_of_mem_telemetryOf hnotice)⟩
  | completed name status response =>
    unfold handle
    dsimp only
    cases hfind : parked.find? fun p => p.handle = name with
    | none =>
      exact ⟨List.Subset.refl parked,
        fun notice hnotice => .inl (frame_of_mem_telemetryOf hnotice)⟩
    | some p =>
      refine ⟨List.filter_sublist.subset, ?_⟩
      intro notice hnotice
      rcases List.mem_append.mp hnotice with hframe | hended
      · exact .inl (frame_of_mem_telemetryOf hframe)
      · exact .inr ⟨p, List.mem_of_find?_eq_some hfind, status, response, _,
          List.mem_singleton.mp hended⟩

/-- And of several. -/
theorem handleAll_says (now : Instant) (events : List ProtocolEvent) (parked : List Parked) :
    (handleAll now events parked).2 ⊆ parked ∧
      ∀ notice ∈ (handleAll now events parked).1,
        (∃ event ∈ events, ∃ frame, event.frame? = some frame ∧ notice = .telemetry frame) ∨
          ∃ p ∈ parked, ∃ status response elapsed,
            notice = .completion p.ticket (.completed status response) elapsed := by
  induction events generalizing parked with
  | nil => exact ⟨List.Subset.refl parked, by simp [handleAll]⟩
  | cons event rest ih =>
    obtain ⟨hless, hfirst⟩ := handle_says parked now event
    obtain ⟨hleft, hrest⟩ := ih (handle parked now event).2
    refine ⟨List.Subset.trans hleft hless, ?_⟩
    intro notice hnotice
    rcases List.mem_append.mp hnotice with hin | hin
    · rcases hfirst notice hin with ⟨frame, hframe, hsays⟩ | hended
      · exact .inl ⟨event, List.mem_cons_self, frame, hframe, hsays⟩
      · exact .inr hended
    · rcases hrest notice hin with ⟨other, hother, htelemetry⟩ | ⟨p, hp, hended⟩
      · exact .inl ⟨other, List.mem_cons_of_mem event hother, htelemetry⟩
      · exact .inr ⟨p, hless hp, hended⟩

/-- As time passes, nothing goes out, and callers hear of queries that waited. -/
theorem advance_says (w : Worker Arbiter) (now : Instant) (frame : Option BusFrame) :
    (w.advance now frame).2.protocol.transmit = w.protocol.transmit ∧
      (w.advance now frame).2.submissions = w.submissions ∧
      (w.advance now frame).2.parked ⊆ w.parked ∧
      (frame = none → ∀ f, .telemetry f ∉ (w.advance now frame).1) ∧
      ∀ notice ∈ (w.advance now frame).1, (∃ f, notice = .telemetry f) ∨
        ∃ p ∈ w.parked, ∃ status response elapsed,
          notice = .completion p.ticket (.completed status response) elapsed := by
  obtain ⟨hless, hsays⟩ := handleAll_says now (w.protocol.process (now - w.last) frame).1 w.parked
  refine ⟨rfl, rfl, hless, ?_, ?_⟩
  · rintro rfl f hin
    rcases hsays _ hin with ⟨event, hevent, g, hframe, -⟩ | ⟨p, -, status, response, elapsed, heq⟩
    · rw [w.protocol.process_idle _ event hevent] at hframe
      cases hframe
    · cases heq
  · intro notice hin
    rcases hsays notice hin with ⟨event, -, f, -, heq⟩ | hended
    · exact .inl ⟨f, heq⟩
    · exact .inr hended

/-- A submission wakes the worker if there is no frame. -/
theorem wake?_submission {w next : Worker Arbiter} {notices : List Notice}
    {submission : Submission} (h : w.wake? now = some (notices, next, some submission)) :
    ∃ rest, w.submissions = submission :: rest ∧
      { w with submissions := rest }.advance now none = (notices, next) := by
  unfold Worker.wake? at h
  split at h
  · cases h
  · rename_i rest _ hsubmissions
    cases h
    exact ⟨rest, hsubmissions, rfl⟩
  · split at h <;> cases h

/-- What is said of a submission that is accepted: its own caller hears at once if it was only sent,
or refused, and others if they lose their place. -/
inductive Told (a : Arbiter) (submission : Submission) : Notice → Prop where
  | sent {ticket : Nat} {elapsed : Duration} (hticket : submission.ticket? = some ticket)
    (haccepted : submission.accepted a = true) :
    Told a submission (.completion ticket .sent elapsed)
  | rejected {ticket : Nat} {code : Int} {elapsed : Duration}
    (hticket : submission.ticket? = some ticket) (hrefused : submission.accepted a = false) :
    Told a submission (.completion ticket (.rejected code) elapsed)
  | lost {ticket : Nat} : Told a submission (.lost ticket)

/-- An accepted submission puts its frame, and nothing else, on the channel. A caller who is parked
for it has its frame there. -/
theorem accept_says (w : Worker Arbiter) (now : Instant) (submission : Submission) :
    (w.accept now submission).2.2 = true ∧
      (w.accept now submission).2.1.protocol.transmit.frames =
        w.protocol.transmit.frames ++ submission.puts w.protocol ∧
      (∀ p ∈ (w.accept now submission).2.1.parked, p ∈ w.parked ∨
        submission.ticket? = some p.ticket ∧ submission.accepted w.protocol = true) ∧
      ∀ notice ∈ (w.accept now submission).1, Told w.protocol submission notice := by
  cases submission with
  | send did request =>
    exact ⟨rfl, w.protocol.send_frames did request, fun p hp => .inl hp, by simp [Worker.accept]⟩
  | query ticket did request timeout submitted =>
    have hasked : BusProtocol.query w.protocol did request timeout =
        w.protocol.query did request timeout := rfl
    have hframes := w.protocol.query_frames did request timeout ticket submitted
    have haccepted : (Submission.query ticket did request timeout submitted).accepted w.protocol =
        (w.protocol.query did request timeout).1.isTaken := rfl
    unfold Worker.accept
    dsimp only
    rw [hasked]
    rcases w.protocol.query_cases did request timeout with
      ⟨code, hcase⟩ | ⟨transmit, -, hcase⟩ | ⟨transmit, -, hcase⟩
    · rw [hcase] at haccepted hframes ⊢
      refine ⟨rfl, hframes, fun p hp => .inl hp, ?_⟩
      intro notice hnotice
      rw [List.mem_singleton.mp hnotice]
      exact .rejected rfl haccepted
    · rw [hcase] at haccepted hframes ⊢
      refine ⟨rfl, hframes, fun p hp => .inl hp, ?_⟩
      intro notice hnotice
      rw [List.mem_singleton.mp hnotice]
      exact .sent rfl haccepted
    · rw [hcase] at haccepted hframes ⊢
      refine ⟨rfl, hframes, ?_, ?_⟩
      · intro p hp
        rcases List.mem_append.mp hp with hold | hnew
        · exact .inl (List.mem_of_mem_filter hold)
        · rw [List.mem_singleton.mp hnew]
          exact .inr ⟨rfl, haccepted⟩
      · intro notice hnotice
        obtain ⟨p, -, rfl⟩ := List.mem_map.mp hnotice
        exact .lost

end Worker

namespace Controller

variable {S : Type} {c : Controller Arbiter} {notices : List Notice}

/-- Without telemetry, everybody is told and the worker goes on. -/
theorem pass_silent (forward : BusFrame → S → Option S) (hsilent : ∀ f, .telemetry f ∉ notices)
    (s : S) :
    pass forward notices c s = (c.finishAll (notices.filterMap Notice.verdict?), s) := by
  induction notices generalizing c with
  | nil => rfl
  | cons notice rest ih =>
    have hrest (c : Controller Arbiter) := ih (c := c) fun f hin =>
      hsilent f (List.mem_cons_of_mem notice hin)
    cases notice with
    | telemetry f => exact absurd List.mem_cons_self (hsilent f)
    | completion ticket outcome elapsed => exact hrest _
    | lost ticket => exact hrest _

/-- A submission that wakes the worker is accepted, as nothing that is said before it brings the
worker down. -/
theorem run_submission {now : Instant} {woken : Worker Arbiter} {submission : Submission}
    (forward : BusFrame → S → Option S) (hup : c.running = true)
    (hdistinct : (c.callers.map Caller.ticket).Nodup)
    (hwake : c.worker.wake? now = some (notices, woken, some submission)) (s : S) :
    ∃ told, pass forward notices { c with worker := woken } s = (told, s) ∧ told.worker = woken ∧
      run forward now 1 c s = pass forward (woken.accept now submission).1
        { told with worker := (woken.accept now submission).2.1 } s := by
  obtain ⟨rest, -, hadvance⟩ := Worker.wake?_submission hwake
  obtain ⟨-, -, -, hsilent, -⟩ :=
    Worker.advance_says { c.worker with submissions := rest } now none
  rw [hadvance] at hsilent
  have hpass := pass_silent (c := { c with worker := woken }) forward (hsilent rfl) s
  have htold := finishAll_finished (c := { c with worker := woken }) hdistinct
    (notices.filterMap Notice.verdict?)
  have hsurvives := (woken.accept_says now submission).1
  refine ⟨_, hpass, htold.worker, ?_⟩
  unfold Controller.run
  rw [if_neg (by simp [hup]), hwake]
  dsimp only
  rw [hpass]
  unfold Controller.acceptNext
  dsimp only
  rw [htold.running, htold.worker, if_neg (by simp [hup]), if_pos hsurvives]
  rfl

end Controller

end HomeGateway
