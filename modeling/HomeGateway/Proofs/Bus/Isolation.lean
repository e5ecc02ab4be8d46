import Mathlib
import HomeGateway.Proofs.Bus.Agenda
import HomeGateway.Proofs.Bus.Channel

/-!
The devices on the bus do not know of each other. Their queries wait in one list, are named from
one counter and are counted down in one sweep, and yet, for the queries of one device, all that
was asked of the others and all that came from them might as well not have happened. The run
without it is followed next to the run with it: the list of the one is the other's, less the
queries to other devices and under other names.
-/

namespace HomeGateway

/-- A query and how it came to its end. -/
structure RowEnd where
  row : Row
  status : CompletionStatus
  response : Option BusFrame

/-- What the protocol says of it. -/
def RowEnd.event (e : RowEnd) : ProtocolEvent := .completed e.row.handle e.status e.response

/-- New names for queries, by their tickets. -/
abbrev Naming := Nat → Nat × QueryHandle

namespace Row

/-- The ends that a call brings: that of the query which the frame answers, and then those of the
queries that are due. -/
def endings (now : Instant) (frame : Option BusFrame) (rows : List Row) : List RowEnd :=
  ((answered frame rows).toList.map fun (f, r) => ⟨r, Arbiter.answerStatus f, some f⟩) ++
    (expired now frame rows).map fun r => ⟨r, .timedOut, none⟩

/-- The queries to a device. -/
def ofDevice (device : BusDeviceId) (rows : List Row) : List Row :=
  rows.filter fun r => r.did = device

/-- A query under a new name. -/
def rename (names : Naming) (r : Row) : Row :=
  { r with ticket := (names r.ticket).1, handle := (names r.ticket).2 }

end Row

/-- The ends of queries to a device, under new names. -/
def RowEnd.restricted (device : BusDeviceId) (names : Naming) (endings : List RowEnd) :
    List RowEnd :=
  (endings.filter fun e => e.row.did = device).map fun e => { e with row := e.row.rename names }

/-- A frame, if it came from a device. -/
def BusFrame.heard (device : BusDeviceId) (frame : Option BusFrame) : Option BusFrame :=
  frame.filter fun f => f.did = device

namespace Row

variable {device : BusDeviceId} {names : Naming} {now : Instant} {f : BusFrame} {r : Row}

theorem answeredBy_rename (names : Naming) (f : BusFrame) :
    answeredBy f ∘ rename names = answeredBy f := rfl

theorem did_of_answeredBy (h : answeredBy f r = true) : r.did = f.did :=
  (of_decide_eq_true h).1

/-- A frame from the device finds the query that it finds among all. -/
theorem answered_restricted (device : BusDeviceId) (names : Naming) (frame : Option BusFrame)
    (rows : List Row) :
    answered (BusFrame.heard device frame) ((ofDevice device rows).map (rename names)) =
      ((answered frame rows).filter fun found => found.2.did = device).map
        fun found => (found.1, found.2.rename names) := by
  cases frame with
  | none => rfl
  | some f =>
    by_cases hsame : f.did = device
    · have hheard : BusFrame.heard device (some f) = some f :=
        Option.filter_some_pos (decide_eq_true hsame)
      have hfind : (ofDevice device rows).find? (answeredBy f) = rows.find? (answeredBy f) := by
        unfold ofDevice
        rw [List.find?_filter]
        congr 1
        funext r
        cases hanswered : answeredBy f r with
        | false => simp
        | true => simp [did_of_answeredBy hanswered, hsame]
      rw [hheard]
      simp only [answered, Option.bind_some, List.find?_map, answeredBy_rename, hfind]
      cases hfound : rows.find? (answeredBy f) with
      | none => rfl
      | some r =>
        have hdid := did_of_answeredBy (List.find?_some hfound)
        simp [Option.filter, hdid, hsame]
    · have hheard : BusFrame.heard device (some f) = none :=
        Option.filter_some_neg (by simpa using hsame)
      rw [hheard]
      simp only [answered, Option.bind_some, Option.bind_none]
      cases hfound : rows.find? (answeredBy f) with
      | none => rfl
      | some r =>
        have hdid := did_of_answeredBy (List.find?_some hfound)
        simp [Option.filter, hdid, hsame]

/-- A frame from elsewhere takes no query of the device out. -/
theorem ofDevice_eraseP (hother : f.did ≠ device) (rows : List Row) :
    ofDevice device (rows.eraseP (answeredBy f)) = ofDevice device rows := by
  rcases List.exists_or_eq_self_of_eraseP (answeredBy f) rows with
    hsame | ⟨r, before, after, -, hanswered, hsplit, herase⟩
  · rw [hsame]
  · have hdid : ¬r.did = device := fun heq => hother ((did_of_answeredBy hanswered).symm.trans heq)
    rw [herase, hsplit]
    simp [ofDevice, hdid]

theorem unanswered_restricted (device : BusDeviceId) (names : Naming) (frame : Option BusFrame)
    (rows : List Row) :
    unanswered (BusFrame.heard device frame) ((ofDevice device rows).map (rename names)) =
      (ofDevice device (unanswered frame rows)).map (rename names) := by
  cases frame with
  | none => rfl
  | some f =>
    by_cases hsame : f.did = device
    · have hheard : BusFrame.heard device (some f) = some f :=
        Option.filter_some_pos (decide_eq_true hsame)
      have hown : (fun r => answeredBy f r && decide (r.did = device)) = answeredBy f := by
        funext r
        cases hanswered : answeredBy f r with
        | false => rfl
        | true => simp [did_of_answeredBy hanswered, hsame]
      rw [hheard]
      simp only [unanswered, ofDevice, List.eraseP_map, answeredBy_rename, List.eraseP_filter, hown]
    · have hheard : BusFrame.heard device (some f) = none :=
        Option.filter_some_neg (by simpa using hsame)
      rw [hheard]
      exact congrArg (List.map (rename names)) (ofDevice_eraseP hsame rows).symm

/-- Queries of the device are due when they are due among all. -/
theorem expired_restricted (device : BusDeviceId) (names : Naming) (now : Instant)
    (frame : Option BusFrame) (rows : List Row) :
    expired now (BusFrame.heard device frame) ((ofDevice device rows).map (rename names)) =
      (ofDevice device (expired now frame rows)).map (rename names) := by
  unfold expired
  rw [unanswered_restricted, List.filter_map]
  exact congrArg (List.map (rename names)) (List.filter_comm _ _ _)

theorem left_restricted (device : BusDeviceId) (names : Naming) (now : Instant)
    (frame : Option BusFrame) (rows : List Row) :
    left now (BusFrame.heard device frame) ((ofDevice device rows).map (rename names)) =
      (ofDevice device (left now frame rows)).map (rename names) := by
  unfold left
  rw [unanswered_restricted, List.filter_map]
  exact congrArg (List.map (rename names)) (List.filter_comm _ _ _)

theorem endings_restricted (device : BusDeviceId) (names : Naming) (now : Instant)
    (frame : Option BusFrame) (rows : List Row) :
    endings now (BusFrame.heard device frame) ((ofDevice device rows).map (rename names)) =
      RowEnd.restricted device names (endings now frame rows) := by
  unfold endings RowEnd.restricted
  rw [answered_restricted, expired_restricted, List.filter_append, List.map_append]
  congr 1
  · cases answered frame rows with
    | none => rfl
    | some found =>
      by_cases hdid : found.2.did = device <;> simp [Option.filter, hdid]
  · simp only [ofDevice, List.filter_map, List.map_map, Function.comp_def]

/-- The protocol reports every end in its place. -/
theorem endings_events (now : Instant) (frame : Option BusFrame) (rows : List Row) :
    (endings now frame rows).map RowEnd.event =
      (Worker.turnEvents now frame rows).filter fun event => event.ends?.isSome := by
  unfold endings Worker.turnEvents
  rw [List.map_append, List.filter_append]
  congr 1
  · cases frame with
    | none => rfl
    | some f =>
      simp only [answered, answerEvents, Option.bind_some]
      cases rows.find? (answeredBy f) with
      | some r => simp [RowEnd.event, ProtocolEvent.ends?]
      | none => cases f.isResponse <;> simp [ProtocolEvent.ends?]
  · rw [List.map_map, List.filter_eq_self.mpr]
    · rfl
    · intro event hevent
      obtain ⟨r, -, rfl⟩ := List.mem_map.mp hevent
      rfl

theorem row_of_endings {e : RowEnd} {frame : Option BusFrame} {rows : List Row}
    (h : e ∈ endings now frame rows) : e.row ∈ rows := by
  rcases List.mem_append.mp h with hanswered | hexpired
  · obtain ⟨⟨f, r⟩, hfound, rfl⟩ := List.mem_map.mp hanswered
    exact (mem_of_answered (Option.mem_toList.mp hfound)).2.1
  · obtain ⟨r, hr, rfl⟩ := List.mem_map.mp hexpired
    exact (mem_expired hr).1

end Row

/-! The ends of queries over a run. -/

namespace Agenda

/-- The ends that a call brings, if it lets time pass. -/
def endings? (a : Agenda) : ProtocolCall → Option (List RowEnd)
  | .queried .. => none
  | .processed elapsed frame _ => some (Row.endings (a.time + elapsed) frame a.waiting)

/-- The ends that each call brings which lets time pass. -/
def endingsFrom (a : Agenda) : List ProtocolCall → List (List RowEnd)
  | [] => []
  | c :: rest => (a.endings? c).toList ++ endingsFrom (a.call c) rest

theorem endingsFrom_concat (a : Agenda) (calls : List ProtocolCall) (c : ProtocolCall) :
    a.endingsFrom (calls ++ [c]) =
      a.endingsFrom calls ++ ((calls.foldl call a).endings? c).toList := by
  induction calls generalizing a with
  | nil => simp [endingsFrom]
  | cons first rest ih => simp only [List.cons_append, endingsFrom, ih, List.foldl_cons,
      List.append_assoc]

end Agenda

/-- The events of each call that lets time pass. -/
def ProtocolCall.events? : ProtocolCall → Option (List ProtocolEvent)
  | .queried .. => none
  | .processed _ _ events => some events

namespace Metered

variable {m : Metered}

/-- How queries came to their ends, by the calls that let time pass. -/
def endings (m : Metered) : List (List RowEnd) := Agenda.endingsFrom ⟨0, 0, []⟩ m.calls

theorem endings_call {next : Metered} {c : ProtocolCall} (hcalls : next.calls = m.calls ++ [c]) :
    next.endings = m.endings ++ (m.agenda.endings? c).toList := by
  unfold endings
  rw [hcalls, Agenda.endingsFrom_concat]
  rfl

theorem agenda_call {next : Metered} {c : ProtocolCall} (hcalls : next.calls = m.calls ++ [c]) :
    next.agenda = m.agenda.call c := by
  unfold agenda
  rw [hcalls, Agenda.after_concat]

/-- Only queries that came to wait come to an end. -/
theorem row_of_endings : ∀ ends ∈ m.endings, ∀ e ∈ ends, e.row ∈ m.admitted := by
  obtain ⟨arbiter, calls⟩ := m
  induction calls using List.reverseRecOn with
  | nil => simp [endings, Agenda.endingsFrom]
  | append_singleton calls c ih =>
    intro ends hends e he
    rw [endings_call (m := ⟨arbiter, calls⟩) rfl, List.mem_append] at hends
    have hstill := (ProtocolCall.admitted_prefix calls [c]).subset
    rcases hends with hearlier | hnow
    · exact hstill (ih ends hearlier e he)
    · cases c with
      | queried => simp [Agenda.endings?] at hnow
      | processed elapsed frame events =>
        obtain rfl := List.mem_singleton.mp hnow
        exact hstill ((Agenda.waiting_sublist calls).subset (Row.row_of_endings he))

/-- In every call that lets time pass, the completions that are reported are those of the queries
that come to their end, in that order. -/
def Attributed (m : Metered) : Prop :=
  m.endings.map (fun ends => ends.map RowEnd.event) =
    (m.calls.filterMap ProtocolCall.events?).map fun events =>
      events.filter fun event => event.ends?.isSome

theorem Follows.attributed (h : m.Follows) : m.Attributed := by
  obtain ⟨arbiter, calls⟩ := m
  have hreported := h.reported
  clear h
  unfold Attributed
  induction calls using List.reverseRecOn with
  | nil => rfl
  | append_singleton calls c ih =>
    have hearlier : ∀ before elapsed frame events later,
        calls = before ++ .processed elapsed frame events :: later →
          events = Worker.turnEvents (ProtocolCall.total before + elapsed) frame
            (Agenda.after before).waiting := by
      intro before elapsed frame events later hsplit
      refine hreported before elapsed frame events (later ++ [c]) ?_
      rw [hsplit, List.append_assoc, List.cons_append]
    rw [endings_call (m := ⟨arbiter, calls⟩) rfl, List.map_append, ih hearlier,
      List.filterMap_append, List.map_append]
    congr 1
    cases c with
    | queried => rfl
    | processed elapsed frame events =>
      have hevents := hreported calls elapsed frame events [] rfl
      simp only [Agenda.endings?, Option.toList_some, List.map_singleton, Row.endings_events]
      rw [agenda_time]
      simp [ProtocolCall.events?, hevents, time, agenda]

end Metered

/-! The run without the other devices. -/

/-- What happens on a line whose driver takes frames as they come, some at a time, until it goes
away. -/
inductive LineStep where
  | query (did : BusDeviceId) (request : BusFrame) (timeout : Duration)
  | send (did : BusDeviceId) (request : BusFrame)
  | process (elapsed : Duration) (frame : Option BusFrame)
  | carry (count : Nat)
  | hangUp

namespace LineStep

/-- What is left of a step without the other devices. -/
def restrict (device : BusDeviceId) : LineStep → List LineStep
  | .query did request timeout => if did = device then [.query did request timeout] else []
  | .send did request => if did = device then [.send did request] else []
  | .process elapsed frame => [.process elapsed (BusFrame.heard device frame)]
  | .carry count => [.carry count]
  | .hangUp => [.hangUp]

def restricted (device : BusDeviceId) (steps : List LineStep) : List LineStep :=
  steps.flatMap (restrict device)

end LineStep

namespace Metered

variable {device : BusDeviceId} {names : Naming} {m whole alone : Metered}

def carry (m : Metered) (count : Nat) : Metered :=
  let transmit := m.arbiter.transmit
  { m with arbiter.transmit := { transmit with frames := transmit.frames.drop count } }

def hangUp (m : Metered) : Metered := { m with arbiter := m.arbiter.disconnect }

/-- The driver that takes all frames. -/
example (m : Metered) : (m.carry m.arbiter.transmit.frames.length).arbiter = m.arbiter.drain.2 := by
  simp [carry, Arbiter.drain]

def advance (m : Metered) : LineStep → Metered
  | .query did request timeout => (m.query did request timeout).2
  | .send did request => (m.send did request).2
  | .process elapsed frame => (m.process elapsed frame).2
  | .carry count => m.carry count
  | .hangUp => m.hangUp

def follow (m : Metered) (steps : List LineStep) : Metered := steps.foldl advance m

/-- The transmit channel takes what it is given in a step. -/
def Accepts (m : Metered) : LineStep → Prop
  | .query did request timeout =>
    (m.query did request timeout).1 ≠ .refused Arbiter.noBuffers
  | .send did request => (m.send did request).1 ≠ .error Arbiter.noBuffers
  | _ => True

/-- The transmit channel refuses nothing on the way. -/
def Unrefused (m : Metered) : List LineStep → Prop
  | [] => True
  | s :: rest => m.Accepts s ∧ (m.advance s).Unrefused rest

theorem unrefused_append (first second : List LineStep) :
    m.Unrefused (first ++ second) ↔ m.Unrefused first ∧ (m.follow first).Unrefused second := by
  induction first generalizing m with
  | nil => simp [Unrefused, follow]
  | cons s rest ih => simp [Unrefused, ih, follow, and_assoc]

theorem Follows.advance (h : m.Follows) (s : LineStep) : (m.advance s).Follows := by
  cases s with
  | query did request timeout => exact h.query did request timeout
  | send did request => exact h.step (.send did request)
  | process elapsed frame => exact h.process elapsed frame
  | carry | hangUp => exact h.congr rfl rfl

theorem Follows.follow (h : m.Follows) (steps : List LineStep) : (m.follow steps).Follows := by
  induction steps generalizing m with
  | nil => exact h
  | cons s rest ih => exact ih (h.advance s)

end Metered

/-- One channel is the other with fewer frames under way. -/
structure TransmitQueue.Lighter (q lighter : TransmitQueue) : Prop where
  depth : lighter.depth = q.depth
  isOpen : lighter.isOpen = q.isOpen
  frames : lighter.frames.length ≤ q.frames.length

namespace Arbiter

variable {a b : Arbiter} {did : BusDeviceId} {request : BusFrame}

/-- What the fuller channel takes, the lighter one takes. -/
theorem send_lighter (h : a.transmit.Lighter b.transmit)
    (haccepts : (a.send did request).1 ≠ .error noBuffers) :
    (b.send did request).1 = (a.send did request).1 ∧
      (a.send did request).2.transmit.Lighter (b.send did request).2.transmit := by
  unfold Arbiter.send at haccepts ⊢
  by_cases hinvalid : request.did ≠ did ∨ request.isResponse
  · rw [if_pos hinvalid, if_pos hinvalid]
    exact ⟨rfl, h⟩
  · rw [if_neg hinvalid] at haccepts
    rw [if_neg hinvalid, if_neg hinvalid]
    unfold TransmitQueue.push? at haccepts ⊢
    by_cases hroom : (a.transmit.isOpen && a.transmit.frames.length < a.transmit.depth) = true
    · have hlighter :
          (b.transmit.isOpen && b.transmit.frames.length < b.transmit.depth) = true := by
        rw [Bool.and_eq_true, decide_eq_true_eq] at hroom ⊢
        rw [h.depth, h.isOpen]
        exact ⟨hroom.1, Nat.lt_of_le_of_lt h.frames hroom.2⟩
      rw [if_pos hroom, if_pos hlighter]
      refine ⟨rfl, h.depth, h.isOpen, ?_⟩
      simpa using h.frames
    · rw [if_neg hroom] at haccepts
      exact absurd rfl haccepts

/-- Whatever is sent, the channel only fills. -/
theorem lighter_send (h : a.transmit.Lighter b.transmit) (did : BusDeviceId) (request : BusFrame) :
    (a.send did request).2.transmit.Lighter b.transmit := by
  rcases a.send_pushes did request with ⟨code, hcase⟩ | hcase
  · rw [hcase]
    exact h
  · rw [hcase]
    refine ⟨h.depth, h.isOpen, h.frames.trans ?_⟩
    simp

theorem query_transmit (a : Arbiter) (did : BusDeviceId) (request : BusFrame)
    (timeout : Duration) :
    (a.query did request timeout).2.transmit = (a.send did request).2.transmit := by
  unfold Arbiter.query
  split
  · rename_i hsend
    rw [hsend]
  · rename_i hsend
    rw [hsend]
    split <;> rfl

/-- What becomes of a query is what becomes of its frame. -/
theorem query_start (a : Arbiter) (did : BusDeviceId) (request : BusFrame) (timeout : Duration) :
    (a.query did request timeout).1 =
      match (a.send did request).1 with
      | .error code => .refused code
      | .ok () => if timeout = 0 then .sent else .waiting a.nextHandle := by
  unfold Arbiter.query
  rcases a.send_cases did request with ⟨code, hcase⟩ | ⟨transmit, hcase⟩
  · rw [hcase]
  · rw [hcase]
    dsimp only
    split <;> rfl

/-- A query that the fuller channel takes comes to the same with the lighter one, but for its
handle. -/
theorem query_lighter {timeout : Duration} (h : a.transmit.Lighter b.transmit)
    (haccepts : (a.query did request timeout).1 ≠ .refused noBuffers) :
    (a.query did request timeout).2.transmit.Lighter (b.query did request timeout).2.transmit ∧
      (((b.query did request timeout).1 = (a.query did request timeout).1 ∧
          ∀ handle, (a.query did request timeout).1 ≠ .waiting handle) ∨
        (a.query did request timeout).1 = .waiting a.nextHandle ∧
          (b.query did request timeout).1 = .waiting b.nextHandle) := by
  have hsends : (a.send did request).1 ≠ .error noBuffers := by
    intro hrefused
    rw [query_start, hrefused] at haccepts
    exact haccepts rfl
  obtain ⟨hresult, hlighter⟩ := send_lighter h hsends
  rw [query_transmit, query_transmit]
  refine ⟨hlighter, ?_⟩
  rw [query_start, query_start, hresult]
  cases (a.send did request).1 with
  | error code => exact .inl ⟨rfl, fun handle => nofun⟩
  | ok =>
    dsimp only
    by_cases hzero : timeout = 0
    · rw [if_pos hzero, if_pos hzero]
      exact .inl ⟨rfl, fun handle => nofun⟩
    · rw [if_neg hzero, if_neg hzero]
      exact .inr ⟨rfl, rfl⟩

end Arbiter

namespace Metered

variable {device : BusDeviceId} {names : Naming} {whole alone : Metered}

/-- One run is the other without what concerns other devices. -/
structure Mirrors (device : BusDeviceId) (names : Naming) (whole alone : Metered) : Prop where
  channel : whole.arbiter.transmit.Lighter alone.arbiter.transmit
  time : alone.time = whole.time
  admitted : alone.admitted = (Row.ofDevice device whole.admitted).map (Row.rename names)
  waiting : alone.agenda.waiting =
    (Row.ofDevice device whole.agenda.waiting).map (Row.rename names)
  endings : alone.endings = whole.endings.map (RowEnd.restricted device names)

theorem new_mirrors (device : BusDeviceId) (names : Naming) (depth : Nat) :
    Mirrors device names (new depth) (new depth) where
  channel := ⟨rfl, rfl, Nat.le_refl _⟩
  time := rfl
  admitted := rfl
  waiting := rfl
  endings := rfl

/-- Whatever calls nothing. -/
theorem Mirrors.congr {whole' alone' : Metered} (h : Mirrors device names whole alone)
    (hwhole : whole'.calls = whole.calls) (halone : alone'.calls = alone.calls)
    (hchannel : whole'.arbiter.transmit.Lighter alone'.arbiter.transmit) :
    Mirrors device names whole' alone' where
  channel := hchannel
  time := by
    unfold Metered.time
    rw [hwhole, halone]
    exact h.time
  admitted := by
    unfold Metered.admitted
    rw [hwhole, halone]
    exact h.admitted
  waiting := by
    unfold Metered.agenda
    rw [hwhole, halone]
    exact h.waiting
  endings := by
    unfold Metered.endings
    rw [hwhole, halone]
    exact h.endings

/-- A call in which time passes and a frame is heard, from the device or not. -/
theorem Mirrors.process (h : Mirrors device names whole alone) (elapsed : Duration)
    (frame : Option BusFrame) :
    Mirrors device names (whole.process elapsed frame).2
      (alone.process elapsed (BusFrame.heard device frame)).2 := by
  have hwhole : (whole.process elapsed frame).2.calls =
      whole.calls ++ [.processed elapsed frame (whole.arbiter.process elapsed frame).1] := rfl
  have halone : (alone.process elapsed (BusFrame.heard device frame)).2.calls =
      alone.calls ++ [.processed elapsed (BusFrame.heard device frame)
        (alone.arbiter.process elapsed (BusFrame.heard device frame)).1] := rfl
  have hclock : alone.agenda.time = whole.agenda.time := by
    rw [agenda_time, agenda_time, h.time]
  constructor
  · exact h.channel
  · rw [time_call hwhole, time_call halone, h.time]
    rfl
  · rw [admitted_call hwhole, admitted_call halone]
    simpa [ProtocolCall.row?] using h.admitted
  · rw [agenda_call hwhole, agenda_call halone]
    simp only [Agenda.call, h.waiting, hclock, Row.left_restricted]
  · rw [endings_call hwhole, endings_call halone, List.map_append, h.endings]
    simp only [Agenda.endings?, h.waiting, hclock, Row.endings_restricted, Option.toList_some,
      List.map_singleton]

/-- These queries came to wait at the end, and nothing else happened. -/
structure Admits (m next : Metered) (rows : List Row) : Prop where
  time : next.time = m.time
  admitted : next.admitted = m.admitted ++ rows
  waiting : next.agenda.waiting = m.agenda.waiting ++ rows
  endings : next.endings = m.endings

theorem Admits.refl (m : Metered) : m.Admits m [] where
  time := rfl
  admitted := (List.append_nil _).symm
  waiting := (List.append_nil _).symm
  endings := rfl

theorem query_admits (m : Metered) (did : BusDeviceId) (request : BusFrame) (timeout : Duration) :
    m.Admits (m.query did request timeout).2
      ((ProtocolCall.queried did request timeout (m.query did request timeout).1).row?
        m.admitted.length m.time).toList := by
  have hcalls : (m.query did request timeout).2.calls =
      m.calls ++ [.queried did request timeout (m.query did request timeout).1] := rfl
  constructor
  · exact time_call hcalls
  · exact admitted_call hcalls
  · rw [agenda_call hcalls, ← agenda_time, ← agenda_made]
    rfl
  · rw [endings_call hcalls]
    exact List.append_nil _

theorem Mirrors.admit {names' : Naming} {whole' alone' : Metered} {rows : List Row}
    (h : Mirrors device names whole alone) (hwhole : whole.Admits whole' rows)
    (halone : alone.Admits alone' ((Row.ofDevice device rows).map (Row.rename names')))
    (hkept : ∀ r ∈ whole.admitted, r.rename names' = r.rename names)
    (hchannel : whole'.arbiter.transmit.Lighter alone'.arbiter.transmit) :
    Mirrors device names' whole' alone' := by
  have hsame (old : List Row) (hold : ∀ r ∈ old, r ∈ whole.admitted) :
      (Row.ofDevice device (old ++ rows)).map (Row.rename names') =
        (Row.ofDevice device old).map (Row.rename names) ++
          (Row.ofDevice device rows).map (Row.rename names') := by
    unfold Row.ofDevice
    rw [List.filter_append, List.map_append]
    congr 1
    exact List.map_congr_left fun r hr => hkept r (hold r (List.mem_of_mem_filter hr))
  constructor
  · exact hchannel
  · rw [halone.time, hwhole.time, h.time]
  · rw [halone.admitted, hwhole.admitted, h.admitted, hsame _ fun _ hr => hr]
  · rw [halone.waiting, hwhole.waiting, h.waiting,
      hsame whole.agenda.waiting fun _ hr => (Agenda.waiting_sublist whole.calls).subset hr]
  · rw [halone.endings, hwhole.endings, h.endings]
    refine List.map_congr_left fun ends hends => ?_
    refine List.map_congr_left fun e he => ?_
    rw [hkept _ (row_of_endings ends hends e (List.mem_of_mem_filter he))]

/-- A query to another device, whatever becomes of it. -/
theorem Mirrors.queryOther (h : Mirrors device names whole alone) {did : BusDeviceId}
    (hother : did ≠ device) (request : BusFrame) (timeout : Duration) :
    Mirrors device names (whole.query did request timeout).2 alone := by
  have hnone (ticket : Nat) (time : Instant) (start : QueryStart) : Row.ofDevice device
      ((ProtocolCall.queried did request timeout start).row? ticket time).toList = [] := by
    cases start <;> simp [ProtocolCall.row?, Row.ofDevice, hother]
  refine h.admit (whole.query_admits did request timeout) ?_ (fun _ _ => rfl) ?_
  · rw [hnone]
    exact .refl alone
  · change (whole.arbiter.query did request timeout).2.transmit.Lighter _
    rw [Arbiter.query_transmit]
    exact Arbiter.lighter_send h.channel did request

/-- A query to the device comes to wait in both runs or in none, and is named in each. -/
theorem Mirrors.queryOwn (h : Mirrors device names whole alone) {request : BusFrame}
    {timeout : Duration} (haccepts : whole.Accepts (.query device request timeout)) :
    alone.Accepts (.query device request timeout) ∧
      ∃ names', Mirrors device names' (whole.query device request timeout).2
        (alone.query device request timeout).2 := by
  have hrow := whole.query_admits device request timeout
  have hrow' := alone.query_admits device request timeout
  obtain ⟨hchannel, ⟨hsame, hidle⟩ | ⟨hwaits, hwaits'⟩⟩ := Arbiter.query_lighter h.channel haccepts
  · change (alone.query device request timeout).1 = (whole.query device request timeout).1 at hsame
    have hnone (ticket : Nat) (time : Instant) : (ProtocolCall.queried device request timeout
        (whole.query device request timeout).1).row? ticket time = none := by
      unfold ProtocolCall.row?
      split
      · rename_i hcall
        injection hcall with _ _ _ hstart
        exact absurd hstart (hidle _)
      · rfl
    rw [hnone] at hrow
    rw [hsame, hnone] at hrow'
    refine ⟨?_, names, h.admit hrow hrow' (fun _ _ => rfl) hchannel⟩
    intro hrefused
    exact haccepts (hsame.symm.trans hrefused)
  · change (whole.query device request timeout).1 = _ at hwaits
    change (alone.query device request timeout).1 = _ at hwaits'
    rw [hwaits] at hrow
    rw [hwaits'] at hrow'
    let names' : Naming := Function.update names whole.admitted.length
      (alone.admitted.length, alone.arbiter.nextHandle)
    refine ⟨?_, names', h.admit hrow ?_ ?_ hchannel⟩
    · intro hrefused
      cases hwaits'.symm.trans hrefused
    · simpa [ProtocolCall.row?, Row.ofDevice, Row.rename, names', h.time] using hrow'
    · intro r hr
      have hnew : r.ticket ≠ whole.admitted.length := Nat.ne_of_lt (ProtocolCall.ticket_lt hr)
      simp only [names', Row.rename, Function.update_of_ne hnew]

theorem Mirrors.sendOwn (h : Mirrors device names whole alone) {request : BusFrame}
    (haccepts : whole.Accepts (.send device request)) :
    alone.Accepts (.send device request) ∧
      Mirrors device names (whole.send device request).2 (alone.send device request).2 := by
  obtain ⟨hresult, hchannel⟩ := Arbiter.send_lighter h.channel haccepts
  refine ⟨?_, h.congr rfl rfl hchannel⟩
  intro hrefused
  exact haccepts (hresult.symm.trans hrefused)

/-- The driver takes frames, or goes. -/
theorem Mirrors.carry (h : Mirrors device names whole alone) (count : Nat) :
    Mirrors device names (whole.carry count) (alone.carry count) := by
  refine h.congr rfl rfl ⟨h.channel.depth, h.channel.isOpen, ?_⟩
  have hframes := Nat.sub_le_sub_right h.channel.frames count
  simpa [Metered.carry] using hframes

theorem Mirrors.hangUp (h : Mirrors device names whole alone) :
    Mirrors device names whole.hangUp alone.hangUp :=
  h.congr rfl rfl ⟨h.channel.depth, rfl, Nat.le_refl _⟩

/-- What is left of a step does to the one run what the step does to the other. -/
theorem Mirrors.advance (h : Mirrors device names whole alone) {s : LineStep}
    (haccepts : whole.Accepts s) :
    alone.Unrefused (s.restrict device) ∧
      ∃ names', Mirrors device names' (whole.advance s) (alone.follow (s.restrict device)) := by
  cases s with
  | query did request timeout =>
    by_cases hown : did = device
    · subst hown
      have hleft : LineStep.restrict did (.query did request timeout) =
        [.query did request timeout] := if_pos rfl
      obtain ⟨htakes, hmirrors⟩ := h.queryOwn haccepts
      rw [hleft]
      exact ⟨⟨htakes, trivial⟩, hmirrors⟩
    · have hleft : LineStep.restrict device (.query did request timeout) = [] := if_neg hown
      rw [hleft]
      exact ⟨trivial, names, h.queryOther hown request timeout⟩
  | send did request =>
    by_cases hown : did = device
    · subst hown
      have hleft : LineStep.restrict did (.send did request) = [.send did request] := if_pos rfl
      obtain ⟨htakes, hmirrors⟩ := h.sendOwn haccepts
      rw [hleft]
      exact ⟨⟨htakes, trivial⟩, names, hmirrors⟩
    · have hleft : LineStep.restrict device (.send did request) = [] := if_neg hown
      rw [hleft]
      exact ⟨trivial, names, h.congr rfl rfl (Arbiter.lighter_send h.channel did request)⟩
  | process elapsed frame => exact ⟨⟨trivial, trivial⟩, names, h.process elapsed frame⟩
  | carry count => exact ⟨⟨trivial, trivial⟩, names, h.carry count⟩
  | hangUp => exact ⟨⟨trivial, trivial⟩, names, h.hangUp⟩

theorem Mirrors.follow {steps : List LineStep} (h : Mirrors device names whole alone)
    (hunrefused : whole.Unrefused steps) :
    alone.Unrefused (LineStep.restricted device steps) ∧
      ∃ names', Mirrors device names' (whole.follow steps)
        (alone.follow (LineStep.restricted device steps)) := by
  induction steps generalizing names whole alone with
  | nil => exact ⟨trivial, names, h⟩
  | cons s rest ih =>
    obtain ⟨htakes, names', hnext⟩ := h.advance hunrefused.1
    obtain ⟨hrest, hlast⟩ := ih hnext hunrefused.2
    unfold LineStep.restricted at hrest hlast ⊢
    rw [List.flatMap_cons, unrefused_append]
    refine ⟨⟨htakes, hrest⟩, ?_⟩
    unfold Metered.follow at hlast ⊢
    rw [List.foldl_append]
    exact hlast

/-- The queries to a device come to the same ends in the same calls and in the same order, whether
there are other devices or not. Only the names that the queries go by are others. -/
structure Isolated (device : BusDeviceId) (whole alone : Metered) : Prop where
  /-- The ends in both runs are those that were reported. -/
  reported : whole.Attributed ∧ alone.Attributed
  /-- In both runs the queries are numbered as they come, and no two share a ticket. -/
  numbered : whole.admitted.map Row.ticket = List.range whole.admitted.length ∧
    alone.admitted.map Row.ticket = List.range alone.admitted.length
  same : ∃ names : Naming,
    alone.admitted = (Row.ofDevice device whole.admitted).map (Row.rename names) ∧
      alone.endings = whole.endings.map (RowEnd.restricted device names)

/-- Without what was asked of the other devices and without what came from them, the channel
refuses nothing that it took with them, and the queries to a device know no difference. -/
theorem follow_isolated {depth : Nat} {steps : List LineStep}
    (hunrefused : (new depth).Unrefused steps) (device : BusDeviceId) :
    (new depth).Unrefused (LineStep.restricted device steps) ∧
      Isolated device ((new depth).follow steps)
        ((new depth).follow (LineStep.restricted device steps)) := by
  have hnew := new_mirrors device (fun _ => (0, 0)) depth
  obtain ⟨htakes, names, hmirrors⟩ := hnew.follow hunrefused
  refine ⟨htakes, ?_, ?_, names, hmirrors.admitted, hmirrors.endings⟩
  · exact ⟨((new_follows depth).follow _).attributed, ((new_follows depth).follow _).attributed⟩
  · exact ⟨ProtocolCall.admitted_tickets _, ProtocolCall.admitted_tickets _⟩

/-- Two devices are asked, one of them twice. The other one answers, and then the one answers its
second query and lets the first run out of time. -/
theorem follow_isolated_pair :
    let ask (device : BusDeviceId) (endpoint : BusEndpoint) (timeout : Duration) : LineStep :=
      .query device (.telemetryQuery device endpoint) timeout
    let hear (device : BusDeviceId) (endpoint : BusEndpoint) : LineStep :=
      .process 30 (some ⟨.telemetry, .response, device, endpoint, []⟩)
    let steps : List LineStep := [ask ⟨8⟩ .boardControl 200, ask ⟨24⟩ .app0 100, .carry 2,
      ask ⟨24⟩ .boardControl 100, hear ⟨8⟩ .boardControl, hear ⟨24⟩ .boardControl,
      .process 40 none]
    let whole := (new 2).follow steps
    let alone := (new 2).follow (LineStep.restricted ⟨24⟩ steps)
    whole.admitted.map Row.handle = [1, 2, 3] ∧ alone.admitted.map Row.handle = [1, 2] ∧
      alone.endings.map (fun ends => ends.map fun e => (e.row.handle, e.status)) =
        [[], [(2, .answered)], [(1, .timedOut)]] ∧
      (new 2).Unrefused (LineStep.restricted ⟨24⟩ steps) ∧ Isolated ⟨24⟩ whole alone := by
  intro ask hear steps
  have hunrefused : (new 2).Unrefused steps :=
    ⟨nofun, nofun, trivial, nofun, trivial, trivial, trivial, trivial⟩
  exact ⟨rfl, rfl, rfl, follow_isolated hunrefused ⟨24⟩⟩

end Metered

end HomeGateway
