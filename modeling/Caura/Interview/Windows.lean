/-!
# Interview windows

How the client splits the events of a scanned transcript into the windows it submits
(`caura_client.interviewer.windows`).  A generator is the list of what it yields.
-/

namespace Caura.Interview

/-- An event of a transcript: the index of its line, and its text. -/
structure ParsedEvent where
  seq : Int
  content : String

/-- `Window`. -/
structure Window where
  cursorFrom : Int
  cursorTo : Int
  events : List ParsedEvent

/-- The characters of some events. -/
def charsOf : List ParsedEvent → Int
  | [] => 0
  | event :: rest => event.content.length + charsOf rest

/-- `chars`. -/
def Window.chars (window : Window) : Int :=
  charsOf window.events

section

variable (maxEvents maxChars eofLineIndex : Int)

/-- The loop of `build_windows` over the events left, and the final window behind it.  There
is a last event to read whenever the batch is not empty. -/
def buildFrom (start : Int) (batch : List ParsedEvent) (chars : Int) :
    List ParsedEvent → List Window
  | [] => batch.getLast?.toList.map fun last => ⟨start, max eofLineIndex last.seq, batch⟩
  | event :: rest =>
    let eventLen : Int := event.content.length
    match batch.getLast? with
    | none => buildFrom start (batch ++ [event]) (chars + eventLen) rest
    | some last =>
      if maxEvents ≤ batch.length ∨ maxChars < chars + eventLen then
        -- The window that is full stops at its last event.
        ⟨start, last.seq, batch⟩ :: buildFrom (last.seq + 1) [event] eventLen rest
      else
        buildFrom start (batch ++ [event]) (chars + eventLen) rest

/-- `build_windows`. -/
def buildWindows (events : List ParsedEvent) (cursorFrom : Int) : List Window :=
  if events.isEmpty then [] else buildFrom maxEvents maxChars eofLineIndex cursorFrom [] 0 events

end

/-- `window_is_worth_interviewing`. -/
def windowIsWorthInterviewing (window : Window) (minEvents minChars : Int) (flush : Bool) : Bool :=
  flush || decide (minEvents ≤ window.events.length) || decide (minChars ≤ window.chars)

/-- The windows follow on one another from the line `start` to the line `stop`. -/
def Consecutive (start stop : Int) : List Window → Prop
  | [] => start = stop + 1
  | window :: rest => window.cursorFrom = start ∧ Consecutive (window.cursorTo + 1) stop rest

/-- A window holds events, of its own range only, within both caps; the cap of characters does
not bind a window of one event. -/
structure Window.Fits (maxEvents maxChars : Int) (window : Window) : Prop where
  nonempty : window.events ≠ []
  inside : ∀ event ∈ window.events, window.cursorFrom ≤ event.seq ∧ event.seq ≤ window.cursorTo
  events_le : window.events.length ≤ maxEvents
  chars_le : window.chars ≤ maxChars ∨ window.events.length = 1

/-- The windows tile the lines from `start` on, with the events in their order. -/
structure Tiles (maxEvents maxChars eofLineIndex start : Int) (events : List ParsedEvent)
    (windows : List Window) : Prop where
  events_eq : windows.flatMap Window.events = events
  consecutive : ∀ last, events.getLast? = some last →
    Consecutive start (max eofLineIndex last.seq) windows
  fits : ∀ window ∈ windows, window.Fits maxEvents maxChars
  worth : ∀ minEvents minChars flush, minEvents ≤ maxEvents →
    (∀ event ∈ events, (event.content.length : Int) ≤ maxChars - minChars) →
    ∀ window ∈ windows.dropLast, windowIsWorthInterviewing window minEvents minChars flush = true

section

variable {maxEvents maxChars eofLineIndex : Int} {init : List ParsedEvent} {last : ParsedEvent}

/-- The events are in the order of their lines. -/
def Ordered (events : List ParsedEvent) : Prop :=
  events.Pairwise fun first second => first.seq < second.seq

theorem charsOf_append (events : List ParsedEvent) (event : ParsedEvent) :
    charsOf (events ++ [event]) = charsOf events + event.content.length := by
  induction events with
  | nil => simp [charsOf]
  | cons first events ih => simp [charsOf, ih, Int.add_assoc]

/-- What the loop knows of its batch, which ends in `last`, and of the events left. -/
structure Seeded (maxEvents maxChars start : Int) (init : List ParsedEvent) (last : ParsedEvent)
    (rest : List ParsedEvent) : Prop where
  ordered : Ordered ((init ++ [last]) ++ rest)
  start_le : ∀ event ∈ (init ++ [last]) ++ rest, start ≤ event.seq
  length_le : ((init ++ [last]).length : Int) ≤ maxEvents
  chars_le : charsOf (init ++ [last]) ≤ maxChars ∨ (init ++ [last]).length = 1

theorem Seeded.fits {start stop : Int} {rest : List ParsedEvent}
    (seeded : Seeded maxEvents maxChars start init last rest) (last_le : last.seq ≤ stop) :
    (Window.mk start stop (init ++ [last])).Fits maxEvents maxChars := by
  refine ⟨by simp, fun event eventMem => ⟨seeded.start_le _ (List.mem_append_left _ eventMem), ?_⟩,
    seeded.length_le, seeded.chars_le⟩
  have ordered := (List.pairwise_append.mp (List.pairwise_append.mp seeded.ordered).1).2.2
  rcases List.mem_append.mp eventMem with initMem | lastMem
  · exact Int.le_trans (Int.le_of_lt (ordered event initMem last (by simp))) last_le
  · rwa [List.mem_singleton.mp lastMem]

/-- A window that is full goes before the windows of the events behind it. -/
theorem Tiles.cons {window : Window} {event : ParsedEvent} {rest : List ParsedEvent}
    {windows : List Window} (fits : window.Fits maxEvents maxChars)
    (full : maxEvents ≤ window.events.length ∨ maxChars < window.chars + event.content.length)
    (tiles : Tiles maxEvents maxChars eofLineIndex (window.cursorTo + 1) (event :: rest) windows) :
    Tiles maxEvents maxChars eofLineIndex window.cursorFrom (window.events ++ event :: rest)
      (window :: windows) := by
  have windows_ne : windows ≠ [] := by
    rintro rfl
    cases tiles.events_eq
  refine ⟨by simp [tiles.events_eq], fun last isLast => ⟨rfl, tiles.consecutive last ?_⟩,
    List.forall_mem_cons.mpr ⟨fits, tiles.fits⟩, fun minEvents minChars flush events_le short => ?_⟩
  · simpa using isLast
  · rw [List.dropLast_cons_of_ne_nil windows_ne]
    refine List.forall_mem_cons.mpr ⟨?_, tiles.worth _ _ flush events_le fun next nextMem =>
      short next (List.mem_append_right _ nextMem)⟩
    have := short event (by simp)
    simp only [windowIsWorthInterviewing, Bool.or_eq_true, decide_eq_true_eq]
    omega

/-- From a batch within the caps on, the loop tiles the batch and the events left. -/
theorem tiles_buildFrom (capped : 1 ≤ maxEvents) (rest : List ParsedEvent) :
    ∀ {start : Int} {init : List ParsedEvent} {last : ParsedEvent},
      Seeded maxEvents maxChars start init last rest →
      Tiles maxEvents maxChars eofLineIndex start ((init ++ [last]) ++ rest)
        (buildFrom maxEvents maxChars eofLineIndex start (init ++ [last])
          (charsOf (init ++ [last])) rest) := by
  induction rest with
  | nil =>
    intro start init last seeded
    have fits := seeded.fits (Int.le_max_right eofLineIndex _)
    constructor <;> simp_all [buildFrom, Consecutive]
  | cons event rest ih =>
    intro start init last seeded
    have later : ∀ next ∈ event :: rest, last.seq + 1 ≤ next.seq := fun next nextMem =>
      (List.pairwise_append.mp seeded.ordered).2.2 last (by simp) next nextMem
    simp only [buildFrom, List.getLast?_concat]
    split
    next full =>
      -- The next window starts over with this event alone.
      have reseeded : Seeded maxEvents maxChars (last.seq + 1) [] event rest :=
        ⟨(List.pairwise_append.mp seeded.ordered).2.1, later, capped, .inr rfl⟩
      simpa [charsOf] using (ih reseeded).cons (seeded.fits (Int.le_refl _)) full
    next roomy =>
      have grown : Seeded maxEvents maxChars start (init ++ [last]) event rest := by
        refine ⟨by simpa using seeded.ordered, by simpa using seeded.start_le, ?_, ?_⟩
        · simp only [List.length_append, List.length_singleton] at roomy ⊢
          omega
        · rw [charsOf_append]
          omega
      rw [← charsOf_append]
      simpa using ih grown

end

/-- The windows tile the range of the scan, and all but the last are worth an interview when no
event alone comes near the cap of characters. -/
theorem windows_tile (events : List ParsedEvent) (cursorFrom eofLineIndex maxEvents maxChars : Int)
    (capped : 1 ≤ maxEvents) (ordered : Ordered events)
    (unread : ∀ event ∈ events, cursorFrom ≤ event.seq) :
    Tiles maxEvents maxChars eofLineIndex cursorFrom events
      (buildWindows maxEvents maxChars eofLineIndex events cursorFrom) := by
  cases events with
  | nil => constructor <;> simp [buildWindows]
  | cons event rest =>
    have seeded : Seeded maxEvents maxChars cursorFrom [] event rest :=
      ⟨ordered, unread, capped, .inr rfl⟩
    simpa [buildWindows, buildFrom, charsOf] using tiles_buildFrom capped rest seeded

theorem windows_tile_pair :
    Tiles 1 9 7 2 [⟨3, "ab"⟩, ⟨5, "c"⟩] [⟨2, 3, [⟨3, "ab"⟩]⟩, ⟨4, 7, [⟨5, "c"⟩]⟩] :=
  windows_tile _ 2 7 1 9 (by decide) (by simp [Ordered]) (by simp)

end Caura.Interview
