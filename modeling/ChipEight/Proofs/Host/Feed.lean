import ChipEight.Proofs.Host.Account

/-
  What the turns of a show feed to its engine.

  All that reaches the engine in a turn are its events, which
  work the keypad, and the time that the turn lets pass. This
  is the time since the host's clock was read last, taken four
  times while the space key is held. The clock is read once a
  turn, behind the time before it and before the sleep that
  ends it, so a reading has the sleep of the turn before.

  So a show does to its engine what a fold over its turns does
  to an engine with a keypad, and no time is lost or counted
  twice: the times that pass at the usual pace add up to what
  the clock showed when it was read last.

  Key definitions include:
    * `ChipEight.paceAfter`
    * `ChipEight.Keypad.hear`
    * `ChipEight.Feed`
    * `ChipEight.feedsOf`
    * `ChipEight.Session.feedAll`
    * `ChipEight.Show.FedAs`

  Main declarations:
    * `ChipEight.Seat.handleAll_eq`
    * `ChipEight.Show.FedAs.turn`
    * `ChipEight.Show.FedAs.play`
    * `ChipEight.Show.turns_feed_engine`
-/

namespace ChipEight

------------------------------------------------------------
-- Events
------------------------------------------------------------

/- What an event of the space key wants: time to run fast. -/
def HostEvent.hurries? : HostEvent → Option Bool
  | .keyDown (some .space) => some true
  | .keyUp (some .space) => some false
  | _ => none

/-
  Whether time is to run fast behind events: the last event of
  the space key decides.
-/
def hurriesAfter (events : List HostEvent) : Bool :=
  (events.filterMap HostEvent.hurries?).getLast?.getD false

/- How much faster time runs behind events. -/
def paceAfter (events : List HostEvent) : Nat :=
  if hurriesAfter events then
    4
  else
    1

namespace Keypad

/- What an event of the host does to a keypad. -/
def hear
    (k : Keypad) : HostEvent → Keypad
  | .quit => k.quit
  | .keyDown (some .escape) => k.quit
  | .keyDown (some key) =>
      (key.keypadKey?.map k.press).getD k
  | .keyUp (some key) =>
      (key.keypadKey?.map k.release).getD k
  | _ => k

end Keypad

namespace Seat

/- A key that goes down is heard by the keypad. -/
theorem keyDown_eq
    (s : Seat)
    (key : HostKey) :
    s.keyDown key =
      { keypad := s.keypad.hear (.keyDown (some key))
        fastForward :=
          (HostEvent.keyDown (some key)).hurries?.getD
            s.fastForward } := by
  cases key with
  | space => rfl
  | escape => rfl
  | _ =>
      unfold keyDown
      simp only [Keypad.hear]
      split
      · rename_i k hKey
        rw [hKey]
        rfl
      · rename_i hKey
        rw [hKey]
        rfl

/- So is a key that goes up. -/
theorem keyUp_eq
    (s : Seat)
    (key : HostKey) :
    s.keyUp key =
      { keypad := s.keypad.hear (.keyUp (some key))
        fastForward :=
          (HostEvent.keyUp (some key)).hurries?.getD
            s.fastForward } := by
  cases key with
  | space => rfl
  | _ =>
      unfold keyUp
      simp only [Keypad.hear]
      split
      · rename_i k hKey
        rw [hKey]
        rfl
      · rename_i hKey
        rw [hKey]
        rfl

/- The keypad and the pace take note of events apart. -/
theorem handle_eq
    (s : Seat)
    (event : HostEvent) :
    s.handle event =
      { keypad := s.keypad.hear event
        fastForward :=
          event.hurries?.getD s.fastForward } := by
  cases event with
  | quit => rfl
  | keyDown key =>
      cases key with
      | none => rfl
      | some key => exact s.keyDown_eq key
  | keyUp key =>
      cases key with
      | none => rfl
      | some key => exact s.keyUp_eq key
  | other => rfl

/- So they do for events one after another. -/
theorem handleAll_eq
    (s : Seat)
    (events : List HostEvent) :
    events.foldl handle s =
      { keypad := events.foldl Keypad.hear s.keypad
        fastForward :=
          (events.filterMap
            HostEvent.hurries?).getLast?.getD
              s.fastForward } := by
  induction events generalizing s with
  | nil =>
      rfl
  | cons event rest ih =>
      rw [List.foldl_cons, List.foldl_cons, ih, handle_eq,
        List.filterMap_cons]
      cases event.hurries? with
      | none => rfl
      | some fast =>
          simp only [List.getLast?_cons, Option.getD_some]

end Seat

/- Later events of the space key outdo the earlier ones. -/
theorem hurriesAfter_append
    (first second : List HostEvent) :
    hurriesAfter (first ++ second) =
      (second.filterMap HostEvent.hurries?).getLast?.getD
        (hurriesAfter first) := by
  unfold hurriesAfter
  rw [List.filterMap_append, List.getLast?_append]
  cases (second.filterMap
      HostEvent.hurries?).getLast? with
  | none => rfl
  | some fast => rfl

/- Without an event of the space key, time runs as usual. -/
theorem paceAfter_of_none
    {events : List HostEvent}
    (h : ∀ e ∈ events, e.hurries? = none) :
    paceAfter events = 1 := by
  have hNone : events.filterMap HostEvent.hurries? = [] :=
    List.filterMap_eq_nil_iff.mpr h
  unfold paceAfter hurriesAfter
  rw [hNone]
  rfl

------------------------------------------------------------
-- Feeds
------------------------------------------------------------

/- Events, and the time that passes behind them. -/
structure Feed where
  events : List HostEvent
  lapse : Nat

/-
  What a turn feeds behind others: its events, and the time
  before it, with the sleep that ended the turn before if
  there was one, at the pace that all events so far set.
-/
def Feed.ofTurn
    (past : List Turn)
    (t : Turn) : Feed where
  events := t.events
  lapse :=
    paceAfter ((past ++ [t]).flatMap Turn.events) *
      (t.nanos + if 0 < past.length then 1000000 else 0)

/- What turns feed in order, behind others. -/
def feedsFrom
    (past : List Turn) : List Turn → List Feed
  | [] => []
  | t :: rest =>
      .ofTurn past t :: feedsFrom (past ++ [t]) rest

/- What turns feed in order, from the first one on. -/
def feedsOf (turns : List Turn) : List Feed :=
  feedsFrom [] turns

/- Turns in two lists feed what they feed in one. -/
theorem feedsFrom_append
    (past first second : List Turn) :
    feedsFrom past (first ++ second) =
      feedsFrom past first ++
        feedsFrom (past ++ first) second := by
  induction first generalizing past with
  | nil =>
      rw [List.append_nil]
      rfl
  | cons t rest ih =>
      rw [List.cons_append, feedsFrom, feedsFrom, ih,
        List.append_assoc]
      rfl

/- One more turn feeds once more. -/
theorem feedsOf_concat
    (past : List Turn)
    (t : Turn) :
    feedsOf (past ++ [t]) =
      feedsOf past ++ [.ofTurn past t] :=
  feedsFrom_append [] past [t]

/-
  At the usual pace, all time adds up that passes before turns
  or is slept between them; the induction adds one turn.
-/
theorem sum_lapse_feedsOf
    {turns : List Turn}
    (h :
      ∀ e ∈ turns.flatMap Turn.events, e.hurries? = none) :
    ((feedsOf turns).map Feed.lapse).sum =
      (turns.map Turn.nanos).sum +
        (turns.length - 1) * 1000000 := by
  induction turns using List.reverseRecOn with
  | nil => rfl
  | append_singleton past t ih =>
      have hPast :
          ∀ e ∈ past.flatMap Turn.events,
            e.hurries? = none := by
        intro e hMem
        apply h
        rw [List.flatMap_append]
        exact List.mem_append_left _ hMem
      have hLapse :
          (Feed.ofTurn past t).lapse =
            t.nanos +
              if 0 < past.length then 1000000 else 0 := by
        rw [Feed.ofTurn, paceAfter_of_none h, Nat.one_mul]
      rw [feedsOf_concat]
      simp only [List.map_append, List.sum_append, ih hPast,
        List.map_cons, List.map_nil, List.sum_singleton,
        hLapse, List.length_append, List.length_singleton]
      split
      · omega
      · omega

namespace Session

/- Hear events and let time pass. -/
def feed
    (s : Session Keypad)
    (f : Feed) : Session Keypad × Option Fault :=
  { s with
    controls :=
      f.events.foldl Keypad.hear s.controls }.advance f.lapse

/- Be fed in order. -/
def feedAll
    (s : Session Keypad)
    (feeds : List Feed) : Session Keypad :=
  feeds.foldl (fun s f => (s.feed f).1) s

/- What feeds a halted engine does nothing to it. -/
theorem engine_feed_of_halted
    {s : Session Keypad}
    (h : s.engine.isHalted = true)
    (f : Feed) :
    (s.feed f).1.engine = s.engine := by
  unfold feed advance
  rw [if_pos h]

/- Nor does all that comes one after another. -/
theorem engine_feedAll_of_halted
    {s : Session Keypad}
    (h : s.engine.isHalted = true)
    (feeds : List Feed) :
    (s.feedAll feeds).engine = s.engine := by
  induction feeds generalizing s with
  | nil =>
      rfl
  | cons f rest ih =>
      have hFirst := engine_feed_of_halted h f
      have hLater : (s.feed f).1.engine.isHalted = true := by
        rw [hFirst]
        exact h
      change ((s.feed f).1.feedAll rest).engine = _
      rw [ih hLater, hFirst]

/- Time that passes with a fault halts the engine. -/
theorem isHalted_advance_of_fault
    {κ : Type}
    [Controls κ]
    {s : Session κ}
    {elapsed : Nat}
    {fault : Fault}
    (h : (s.advance elapsed).2 = some fault) :
    (s.advance elapsed).1.engine.isHalted = true := by
  rcases exists_made_of_advance_fault h with
    ⟨made, _, _, hStep, hSame⟩
  rw [hSame.isHalted_eq]
  exact isHalted_step_of_fault hStep

end Session

------------------------------------------------------------
-- Seats And Keypads
------------------------------------------------------------

/- A seat answers as its keypad does. -/
def Setting.atKeypad
    (talk : Array Exchange)
    (records : Array Record) : Setting Seat Keypad where
  view := Seat.keypad
  talk := talk
  records := records
  isHeld_view _ _ := rfl
  takePress_view _ := rfl
  wantsQuit_view _ := rfl

/- A seat answers alike whether time is to run fast or not. -/
def Setting.atPace
    (fastForward : Bool) : Setting Seat Seat where
  view seat := { seat with fastForward := fastForward }
  talk := #[]
  records := #[]
  isHeld_view _ _ := rfl
  takePress_view _ := rfl
  wantsQuit_view _ := rfl

namespace Session

/- Time that passes does not change the pace. -/
theorem fastForward_advance
    (s : Session Seat)
    (elapsed : Nat) :
    (s.advance elapsed).1.controls.fastForward =
      s.controls.fastForward := by
  let p := Setting.atPace s.controls.fastForward
  have hSelf : s.placed p = s := by
    simp [placed, p, Setting.atPace]
  have hAdvance := s.advance_placed p elapsed
  rw [hSelf] at hAdvance
  rw [hAdvance]
  rfl

/-
  Time passes for an engine with a seat as for the same engine
  with the seat's keypad alone.
-/
theorem advance_atKeypad
    {s : Session Seat}
    {t : Session Keypad}
    (hEngine : s.engine = t.engine)
    (hKeypad : s.controls.keypad = t.controls)
    (elapsed : Nat) :
    (s.advance elapsed).1.engine =
        (t.advance elapsed).1.engine ∧
      (s.advance elapsed).1.controls.keypad =
        (t.advance elapsed).1.controls ∧
      (s.advance elapsed).2 = (t.advance elapsed).2 := by
  let base := Session.initial s.engine s.controls
  have hSeat :
      base.placed (.behind Seat s.exchanges s.log) = s :=
    placed_initial s
  have hPad :
      base.placed (.atKeypad t.exchanges t.log) = t := by
    simp [placed, base, Setting.atKeypad, initial, hEngine,
      hKeypad]
  rw [← hSeat, ← hPad, advance_placed, advance_placed]
  exact ⟨rfl, rfl, rfl⟩

end Session

------------------------------------------------------------
-- Clocks Of Hosts
------------------------------------------------------------

/- The nanoseconds that a call to the host lets pass. -/
def ScreenCall.nanos : ScreenCall → Nat
  | .sleep nanos => nanos
  | _ => 0

namespace Show

/- No time passes while a picture is shown. -/
theorem sum_nanos_renderCalls
    (padding : Nat)
    (frame : Frame)
    (failure : Option RenderFailure) :
    ((renderCalls padding frame failure).map
      ScreenCall.nanos).sum = 0 := by
  apply List.sum_eq_zero_iff_forall_eq_nat.mpr
  intro nanos hMem
  rcases List.mem_map.mp hMem with ⟨call, hCall, rfl⟩
  have hRenders := renders_of_mem_renderCalls hCall
  cases call with
  | sleep nanos => cases hRenders
  | _ => rfl

/- Of what a turn asks of the host, only the sleep lasts. -/
theorem sum_nanos_callsIn
    (s : Show)
    (t : Turn) :
    ((s.callsIn t).map ScreenCall.nanos).sum = 1000000 := by
  have hNap : ScreenCall.nanos (.sleep nap) = 1000000 := rfl
  rw [callsIn, List.map_append, List.sum_append,
    List.map_singleton, hNap, List.sum_singleton]
  cases s.picture? t with
  | none => simp
  | some frame => rw [sum_nanos_renderCalls, Nat.zero_add]

/- In a turn, the clock is read behind the time before it. -/
theorem lastRead_turn
    (s : Show)
    (t : Turn) :
    (s.turn t).1.watch.lastRead = s.watch.now + t.nanos := by
  cases hFault : (s.turn t).2 with
  | some fault =>
      rw [turn_of_some hFault]
      rfl
  | none =>
      rw [turn_of_none hFault, sleep, watch_flush]
      rfl

/- It goes on in the sleep that ends the turn. -/
theorem now_turn
    {s : Show}
    {t : Turn}
    (h : (s.turn t).2 = none) :
    (s.turn t).1.watch.now =
      (s.turn t).1.watch.lastRead + 1000000 := by
  rw [turn_of_none h, sleep, watch_flush]
  rfl

------------------------------------------------------------
-- Shows And Feeds
------------------------------------------------------------

/-
  Whether a show stands, behind some turns, where a session
  stands that was fed what they feed. Its clock shows the time
  before all turns and a sleep for each, and since it was read
  last, it has moved on by the sleep of the last turn.
-/
structure FedAs
    (s : Show)
    (past : List Turn)
    (fed : Session Keypad) : Prop where
  engine : s.session.engine = fed.engine
  keypad : s.session.controls.keypad = fed.controls
  fastForward :
    s.session.controls.fastForward =
      hurriesAfter (past.flatMap Turn.events)
  now :
    s.watch.now =
      (past.map Turn.nanos).sum + past.length * 1000000
  since :
    s.watch.now =
      s.watch.lastRead +
        if 0 < past.length then 1000000 else 0
  staged : s.staged = none
  sleeps :
    (s.calls.toList.map ScreenCall.nanos).sum =
      past.length * 1000000

/- A show that opens was fed nothing. -/
theorem fedAs_opening
    (engine : Engine)
    (scale : UInt32)
    (padding : Nat) :
    (opening engine scale padding none).FedAs []
      (Session.initial engine Keypad.initial) where
  engine := rfl
  keypad := rfl
  fastForward := rfl
  now := rfl
  since := rfl
  staged := rfl
  sleeps := by
    rw [List.length_nil, Nat.zero_mul]
    rfl

namespace FedAs

variable {s : Show} {past : List Turn}
variable {fed : Session Keypad}

/- A turn lets the time pass that it feeds. -/
theorem elapsed_eq
    (h : s.FedAs past fed)
    (t : Turn) :
    s.elapsed t = (Feed.ofTurn past t).lapse := by
  have hPace :
      (s.seated t.events).pace =
        paceAfter ((past ++ [t]).flatMap Turn.events) := by
    rw [seated, Seat.handleAll_eq, Seat.pace, paceAfter,
      List.flatMap_append, hurriesAfter_append,
      h.fastForward]
    simp only [List.flatMap_cons, List.flatMap_nil,
      List.append_nil]
  have hSince :
      s.watch.now - s.watch.lastRead =
        if 0 < past.length then 1000000 else 0 := by
    rw [h.since, Nat.add_sub_cancel_left]
  rw [elapsed, Stopwatch.read_pass, hPace, hSince,
    Feed.ofTurn, Nat.add_comm, Nat.mul_comm]

/- A turn does to the engine what it feeds does. -/
theorem advanced
    (h : s.FedAs past fed)
    (t : Turn) :
    let after := fed.feed (.ofTurn past t)
    (s.advanced t).session.engine = after.1.engine ∧
      (s.advanced t).session.controls.keypad =
        after.1.controls ∧
      (s.turn t).2 = after.2 := by
  have hKeypad :
      (s.entered t).controls.keypad =
        t.events.foldl Keypad.hear fed.controls := by
    rw [entered, seated, Seat.handleAll_eq, h.keypad]
  have hAdvance :=
    Session.advance_atKeypad
      (t :=
        { fed with
          controls :=
            t.events.foldl Keypad.hear fed.controls })
      (s := s.entered t) h.engine hKeypad (s.elapsed t)
  rw [fault_turn]
  rw [h.elapsed_eq t] at hAdvance ⊢
  unfold Show.advanced
  rw [h.elapsed_eq t]
  exact hAdvance

/- So the show stands where what was fed so far leads to. -/
theorem turn
    (h : s.FedAs past fed)
    {t : Turn}
    (hNone : (s.turn t).2 = none) :
    (s.turn t).1.FedAs (past ++ [t])
      (fed.feed (.ofTurn past t)).1 := by
  rcases h.advanced t with ⟨hEngine, hKeypad, _⟩
  refine ⟨?_, ?_, ?_, ?_, ?_, staged_turn hNone, ?_⟩
  · rw [engine_turn hNone]
    exact hEngine
  · rw [controls_turn hNone]
    exact hKeypad
  · rw [controls_turn hNone, Show.advanced,
      Session.fastForward_advance, entered, seated,
      Seat.handleAll_eq, List.flatMap_append,
      hurriesAfter_append, h.fastForward]
    simp only [List.flatMap_cons, List.flatMap_nil,
      List.append_nil]
  · rw [now_turn hNone, lastRead_turn, h.now]
    simp only [List.map_append, List.sum_append,
      List.map_cons, List.map_nil, List.sum_singleton,
      List.length_append, List.length_singleton]
    omega
  · rw [now_turn hNone, if_pos]
    rw [List.length_append, List.length_singleton]
    exact Nat.succ_pos _
  · rw [calls_turn h.staged hNone, List.map_append,
      List.sum_append, h.sleeps, sum_nanos_callsIn,
      List.length_append, List.length_singleton]
    omega

end FedAs

/-
  Whether a play behind some turns ends where a session stands
  that was fed what its turns feed, and lets the times pass
  that they feed up to its end.
-/
structure PlaysAs
    (s : Show)
    (past turns : List Turn)
    (fed : Session Keypad) : Prop where
  engine : (s.play turns).1.session.engine = fed.engine
  unfinished_iff :
    (s.play turns).2 = .unfinished ↔
      fed.engine.isHalted = false
  fedAs :
    (s.play turns).2 = .unfinished →
      (s.play turns).1.FedAs (past ++ turns) fed
  lapses :
    s.lapses turns <+: (feedsFrom past turns).map Feed.lapse
  lapses_eq :
    (s.play turns).2 = .unfinished →
      s.lapses turns = (feedsFrom past turns).map Feed.lapse

/-
  A play that is over does not wait for what else its turns
  would feed to a halted engine.
-/
theorem playsAs_of_over
    {s : Show}
    {past turns : List Turn}
    {fed : Session Keypad}
    (hEngine : (s.play turns).1.session.engine = fed.engine)
    (hOver : (s.play turns).2 ≠ .unfinished)
    (hHalted : fed.engine.isHalted = true)
    (hLapses :
      s.lapses turns <+:
        (feedsFrom past turns).map Feed.lapse) :
    s.PlaysAs past turns fed where
  engine := hEngine
  unfinished_iff := by
    rw [hHalted]
    constructor
    · intro hEnd
      exact absurd hEnd hOver
    · intro hNot
      cases hNot
  fedAs := by
    intro hEnd
    exact absurd hEnd hOver
  lapses := hLapses
  lapses_eq := by
    intro hEnd
    exact absurd hEnd hOver

/-
  A show that stands where a session stands plays on as the
  session is fed; the induction is on the turns.
-/
theorem FedAs.play
    {s : Show}
    {past : List Turn}
    {fed : Session Keypad}
    (h : s.FedAs past fed)
    (turns : List Turn) :
    s.PlaysAs past turns
      (fed.feedAll (feedsFrom past turns)) := by
  fun_induction Show.play s turns generalizing past fed with
  | case1 turns s hHalted =>
      have hFed : fed.engine.isHalted = true := by
        rw [← h.engine]
        exact hHalted
      have hEngine :=
        Session.engine_feedAll_of_halted hFed
          (feedsFrom past turns)
      apply playsAs_of_over
      · rw [play_of_halted hHalted, hEngine]
        exact h.engine
      · rw [play_of_halted hHalted]
        intro hEnd
        cases hEnd
      · rw [hEngine]
        exact hFed
      · rw [lapses_of_halted hHalted]
        exact List.nil_prefix
  | case2 s hNot =>
      have hPlay := play_nil hNot
      refine ⟨?_, ?_, ?_, ?_, ?_⟩
      · rw [hPlay]
        exact h.engine
      · rw [hPlay, ← Bool.not_eq_true]
        change _ ↔ ¬ fed.engine.isHalted = true
        rw [← h.engine]
        exact iff_of_true rfl hNot
      · intro _
        rw [hPlay, List.append_nil]
        exact h
      · rw [lapses_nil]
        exact List.nil_prefix
      · intro _
        rw [lapses_nil]
        rfl
  | case3 s hNot t rest later fault hTurn =>
      have hMet : (s.turn t).2 = some fault := by
        rw [hTurn]
      rcases h.advanced t with ⟨hEngine, _, hFault⟩
      have hHalted :
          (fed.feed
            (.ofTurn past t)).1.engine.isHalted = true := by
        apply Session.isHalted_advance_of_fault
        rw [← hMet, hFault]
        rfl
      have hRest :=
        Session.engine_feedAll_of_halted hHalted
          (feedsFrom (past ++ [t]) rest)
      apply playsAs_of_over
      · rw [play_of_fault hNot hTurn]
        change later.session.engine =
          ((fed.feed (.ofTurn past t)).1.feedAll
            (feedsFrom (past ++ [t]) rest)).engine
        rw [hRest, ← hEngine, ← turn_of_some hMet, hTurn]
      · rw [play_of_fault hNot hTurn]
        intro hEnd
        cases hEnd
      · change
          ((fed.feed (.ofTurn past t)).1.feedAll
            (feedsFrom (past ++ [t])
              rest)).engine.isHalted = true
        rw [hRest]
        exact hHalted
      · rw [lapses_of_fault hNot hTurn, h.elapsed_eq]
        exact List.prefix_append _ _
  | case4 s hNot t rest later hTurn ih =>
      have hNone : (s.turn t).2 = none := by
        rw [hTurn]
      have hLater := h.turn hNone
      rw [hTurn] at hLater
      have hRest := ih hLater
      have hPlay := play_of_none hNot hTurn rest
      have hLapses :
          s.lapses (t :: rest) =
            (Feed.ofTurn past t).lapse ::
              later.lapses rest := by
        rw [lapses_of_none hNot hTurn, h.elapsed_eq]
      refine ⟨?_, ?_, ?_, ?_, ?_⟩
      · rw [hPlay]
        exact hRest.engine
      · rw [hPlay]
        exact hRest.unfinished_iff
      · intro hEnd
        rw [hPlay] at hEnd ⊢
        have hFed := hRest.fedAs hEnd
        rw [List.append_assoc] at hFed
        exact hFed
      · rw [hLapses]
        exact List.cons_prefix_cons.mpr ⟨rfl, hRest.lapses⟩
      · intro hEnd
        rw [hPlay] at hEnd
        rw [hLapses, hRest.lapses_eq hEnd]
        rfl

------------------------------------------------------------
-- Whole Shows
------------------------------------------------------------

/- The time of one more turn passes once it is played. -/
theorem lapses_concat
    {s : Show}
    {past : List Turn}
    (h : (s.play past).2 = .unfinished)
    (t : Turn) :
    s.lapses (past ++ [t]) =
      s.lapses past ++ [(s.play past).1.elapsed t] := by
  fun_induction Show.play s past with
  | case1 past s hHalted => cases h
  | case2 s hNot =>
      rw [List.nil_append, lapses_nil]
      rcases hTurn : s.turn t with ⟨later, met⟩
      cases met with
      | some fault =>
          rw [lapses_of_fault hNot hTurn]
          rfl
      | none =>
          rw [lapses_of_none hNot hTurn, lapses_nil]
          rfl
  | case3 s hNot u rest later fault hTurn => cases h
  | case4 s hNot u rest later hTurn ih =>
      rw [List.cons_append, lapses_of_none hNot hTurn,
        lapses_of_none hNot hTurn, ih h, List.cons_append]

/- A play ends in a turn with the fault of the turn. -/
theorem play_singleton_eq_faulted_iff
    {s : Show}
    (hNot : ¬ s.session.engine.isHalted = true)
    (t : Turn)
    (fault : Fault) :
    (s.play [t]).2 = .faulted fault ↔
      (s.turn t).2 = some fault := by
  rcases hTurn : s.turn t with ⟨later, met⟩
  cases met with
  | some other =>
      rw [play_of_fault hNot hTurn]
      simp
  | none =>
      rw [play_of_none hNot hTurn]
      by_cases hHalted : later.session.engine.isHalted = true
      · rw [play_of_halted hHalted]
        simp
      · rw [play_nil hHalted]
        simp

/-
  As long as a play from the beginning of a show goes on, one
  more turn lets the time pass that it feeds.
-/
theorem PlaysAs.lapses_concat
    {s : Show}
    {past : List Turn}
    {fed : Session Keypad}
    (h : s.PlaysAs [] past fed)
    (hPast : (s.play past).2 = .unfinished)
    (t : Turn) :
    s.lapses (past ++ [t]) =
      (feedsOf (past ++ [t])).map Feed.lapse := by
  have hElapsed := (h.fedAs hPast).elapsed_eq t
  rw [Show.lapses_concat hPast, h.lapses_eq hPast, hElapsed,
    feedsOf_concat, List.map_append]
  rfl

/- A play reads the clock last as its last turn does. -/
theorem lastRead_play_singleton
    {s : Show}
    (hNot : ¬ s.session.engine.isHalted = true)
    (t : Turn) :
    (s.play [t]).1.watch.lastRead = s.watch.now + t.nanos := by
  rw [← lastRead_turn]
  rcases hTurn : s.turn t with ⟨later, met⟩
  cases met with
  | some fault => rw [play_of_fault hNot hTurn]
  | none =>
      rw [play_of_none hNot hTurn]
      by_cases hHalted : later.session.engine.isHalted = true
      · rw [play_of_halted hHalted]
        rfl
      · rw [play_nil hHalted]

/-
  A show does to its engine what a fold over its turns does:
  each turn has the keypad hear its events, in order, and then
  lets one time pass. It is the time since the clock was read
  in the turn before, or since the show began, at the pace
  that the events so far set. A turn is taken up unless the
  engine has halted before it. The clock has all the time that
  passes before turns and in sleeps. As long as no event is one
  of the space key, the times that have passed add up to what
  the clock showed when it was read last.
-/
theorem turns_feed_engine
    (engine : Engine)
    (scale : UInt32)
    (padding : Nat) :
    let run := Show.run engine scale padding none
    let start := opening engine scale padding none
    let fed := fun turns =>
      (Session.initial engine Keypad.initial).feedAll
        (feedsOf turns)
    (∀ turns,
        (run turns).1.session.engine = (fed turns).engine ∧
          ((run turns).2 = .unfinished ↔
            (fed turns).engine.isHalted = false) ∧
          start.lapses turns <+:
            (feedsOf turns).map Feed.lapse) ∧
      ∀ past t,
        (fed past).engine.isHalted = false →
          let feeds := feedsOf (past ++ [t])
          let now := (run (past ++ [t])).1.watch.lastRead
          let before := (run past).1.watch.lastRead
          start.lapses (past ++ [t]) =
              feeds.map Feed.lapse ∧
            now =
                before +
                  (t.nanos +
                    if 0 < past.length then
                      1000000
                    else
                      0) ∧
            now =
                ((past ++ [t]).map Turn.nanos).sum +
                  ((run past).1.calls.toList.map
                    ScreenCall.nanos).sum ∧
            (run past).1.session.controls.keypad =
                (fed past).controls ∧
            (∀ fault,
              (run (past ++ [t])).2 = .faulted fault ↔
                ((fed past).feed (.ofTurn past t)).2 =
                  some fault) ∧
            ((∀ e ∈ (past ++ [t]).flatMap Turn.events,
                e.hurries? = none) →
              (start.lapses (past ++ [t])).sum = now) := by
  intro run start fed
  have hPlays (turns : List Turn) :
      start.PlaysAs [] turns (fed turns) :=
    (fedAs_opening engine scale padding).play turns
  refine ⟨?_, ?_⟩
  · intro turns
    exact
      ⟨(hPlays turns).engine, (hPlays turns).unfinished_iff,
        (hPlays turns).lapses⟩
  · intro past t hNot feeds now before
    have hPast : (run past).2 = .unfinished :=
      (hPlays past).unfinished_iff.mpr hNot
    have hFed : (run past).1.FedAs past (fed past) :=
      (hPlays past).fedAs hPast
    have hGoes := not_halted_of_unfinished hPast
    have hRun :
        run (past ++ [t]) = (run past).1.play [t] :=
      (play_append start past [t]).trans (if_pos hPast)
    have hRead :
        now = (run past).1.watch.now + t.nanos := by
      change (run (past ++ [t])).1.watch.lastRead = _
      rw [hRun]
      exact lastRead_play_singleton hGoes t
    have hVirtual :
        now =
          ((past ++ [t]).map Turn.nanos).sum +
            past.length * 1000000 := by
      rw [hRead, hFed.now, List.map_append, List.sum_append,
        List.map_singleton, List.sum_singleton]
      omega
    have hLapses := (hPlays past).lapses_concat hPast t
    refine ⟨hLapses, ?_, ?_, hFed.keypad, ?_, ?_⟩
    · rw [hRead, hFed.since]
      omega
    · rw [hVirtual, hFed.sleeps]
    · intro fault
      rw [hRun, ← (hFed.advanced t).2.2]
      exact play_singleton_eq_faulted_iff hGoes t fault
    · intro hUsual
      rw [hLapses, sum_lapse_feedsOf hUsual, hVirtual,
        List.length_append, List.length_singleton,
        Nat.add_sub_cancel]

/-
  While the space key is held, a turn lets pass four times what
  the clock shows since the turn before, but a key that was let
  go again within its turn does not count.
-/
theorem lapses_of_hurried_turn :
    let engine :=
      ((Session.initial
        (Engine.switchedOn ⟨100, 60⟩ (Generator.ofSeed 7))
        Seat.initial).load [0x12, 0x00]).1.engine
    let past : List Turn :=
      [{ nanos := 5000000
         events :=
          [.keyDown (some .space), .keyUp (some .space)] },
        { nanos := 3000000
          events :=
            [.keyDown (some (.letter 'X')),
              .keyDown (some .space)] }]
    let t : Turn :=
      { nanos := 2000000
        events := [.keyUp (some .space)] }
    let run := Show.run engine 10 0 none
    let start := opening engine 10 0 none
    let fed :=
      (Session.initial engine Keypad.initial).feedAll
        (feedsOf past)
    fed.engine.isHalted = false ∧
      start.lapses (past ++ [t]) =
        [5000000, 16000000, 3000000] ∧
      (run past).1.watch.lastRead = 9000000 ∧
      (run (past ++ [t])).1.watch.lastRead =
        (run past).1.watch.lastRead + 3000000 ∧
      (run past).1.session.controls.keypad =
        fed.controls := by
  intro engine past t run start fed
  have hNot : fed.engine.isHalted = false := by
    decide +kernel
  rcases (turns_feed_engine engine 10 0).2 past t hNot with
    ⟨hLapses, hClock, _, hKeypad, _⟩
  have hFeeds :
      (feedsOf (past ++ [t])).map Feed.lapse =
        [5000000, 16000000, 3000000] := by
    decide +kernel
  have hSince :
      (t.nanos + if 0 < past.length then 1000000 else 0) =
        3000000 := by
    decide +kernel
  have hBefore : (run past).1.watch.lastRead = 9000000 := by
    decide +kernel
  rw [hSince] at hClock
  exact
    ⟨hNot, hLapses.trans hFeeds, hBefore, hClock, hKeypad⟩

end Show

end ChipEight
