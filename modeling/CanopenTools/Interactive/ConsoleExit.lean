import CanopenTools.Interactive.ConsoleEscapes

/-!
# How a session ends

The main loop goes on until option 14, Ctrl-C or a fatal event (`mainLoop_leaves`), and `main` calls
`network.disconnect` on the first two of these ways only. Between the connection and the `try` any
error is fatal, Ctrl-C too (`accounts_startMonitor`). A session is `Orderly` when the user has ended
it and the network has been disconnected. By `orderly_iff` this holds of a session exactly when
nothing fatal has happened in it. A node id that is not a number is fatal
(`not_orderly_typesLetters`).
-/

set_option autoImplicit false
set_option relaxedAutoImplicit false

namespace CanopenTools.Interactive.Console

open Effects Tools

/-! ### The start -/

/-- A successful `network.connect`. -/
def Connects : Event console → Prop
  | ⟨.connect _ _, .ok _⟩ => True
  | _ => False

theorem accounts_loadEdsFiles (edsPaths : List String) : Accountable (loadEdsFiles edsPaths) := by
  induction edsPaths with
  | nil => exact accounts_pure []
  | cons path paths ih =>
    refine accounts_bind ?_ fun found ↦ accounts_bind ih fun edsFiles ↦ accounts_pure _
    exact accounts_ask trivial trivial

/-- The start accounts for its exceptions: an `int` that fails on the baud rate is fatal. -/
theorem accounts_start (edsPaths : List String) : Accountable (start edsPaths) := by
  refine accounts_bind (accounts_loadEdsFiles edsPaths) fun edsFiles ↦ ?_
  refine accounts_bind (accounts_ask trivial trivial) fun interface ↦ ?_
  refine accounts_perform_bind (fun _ ↦ nofun) (fatal_error_iff trivial not_false) ?_ ?_
  · rintro line ⟨htyped, hrefused⟩
    obtain ⟨error, herror, hraise⟩ := int_of_none hrefused
    refine ⟨error, herror, ?_⟩
    simp only [if_pos htyped, hraise]
    rfl
  · intro line haccepted
    have hconnect (baudrate : ℤ) : Accountable (do
        ask (.connect (if strip interface = "" then "vcan0" else strip interface) baudrate)
        pure edsFiles) :=
      accounts_bind (accounts_ask trivial trivial) fun _ ↦ accounts_pure _
    refine accounts_bind ?_ hconnect
    by_cases htyped : strip line ≠ ""
    · rw [if_pos htyped]
      exact accounts_int fun hrefused ↦ haccepted ⟨htyped, hrefused⟩
    · rw [if_neg htyped]
      exact accounts_pure 125000

theorem uses_loadEdsFiles (edsPaths : List String) :
    (loadEdsFiles edsPaths).Uses (Never Connects) := by
  induction edsPaths with
  | nil => trivial
  | cons path paths ih =>
    refine Program.uses_bind (Program.uses_perform nofun) fun _ ↦ ?_
    exact Program.uses_bind ih fun _ ↦ trivial

/-- The end of the start, on the settings that were typed. -/
theorem returnsBy_connect (edsFiles : List String) (interface baudStr : String) :
    ReturnsBy Connects (do
      let baudrate ← (if baudStr ≠ "" then int baudStr else pure 125000)
      ask (.connect interface baudrate)
      pure edsFiles) := by
  refine returnsBy_seq (Program.uses_ite ?_ trivial) fun baudrate ↦
    returnsBy_perform (fun _ ↦ not_false) fun _ ↦ trivial
  unfold int
  split <;> trivial

/-- The start returns exactly when the network is connected. -/
theorem returnsBy_start (edsPaths : List String) : ReturnsBy Connects (start edsPaths) := by
  refine returnsBy_seq (uses_loadEdsFiles edsPaths) fun edsFiles ↦ ?_
  refine returnsBy_seq (Program.uses_perform nofun) fun interface ↦ ?_
  refine returnsBy_seq (Program.uses_perform nofun) fun line ↦ ?_
  exact returnsBy_connect edsFiles _ (strip line)

/-- Before the `try` every error is fatal, Ctrl-C too: nothing handles it. -/
theorem accounts_ask_beforeTry {op : Op} (hbefore : BeforeTry op) (hunguarded : Unguarded op)
    (hstays : op ≠ .tool .networkDisconnect) (hrefused : ∀ result, ¬ Refused op result) :
    Accounts Fatal Disconnects (fun _ ↦ True) (ask op) := by
  refine accounts_perform (fun _ ↦ hstays) (fun error ↦ ?_) hrefused
  cases error with
  | exception message => exact iff_of_true hunguarded trivial
  | keyboardInterrupt => exact iff_of_true hbefore trivial

/-- The part before the `try` accounts for all its errors. -/
theorem accounts_startMonitor : Accounts Fatal Disconnects (fun _ ↦ True) startMonitor := by
  refine accounts_bind ?_ fun _ ↦ accounts_bind ?_ fun _ ↦ ?_
  all_goals exact accounts_ask_beforeTry trivial trivial nofun fun _ ↦ not_false

/-! ### The main loop -/

/-- The loop was left through option 14. -/
structure LeftByOption (history : List (Event console)) : Prop where
  chosen : Happened ChoosesExit history
  disconnected : Happened Disconnects history
  unharmed : ¬ Happened Fatal history

/-- The ways out of the main loop: option 14, a fatal event or Ctrl-C. A loop that is still going on
counts as well. -/
inductive Leaves : List (Event console) × Outcome console Unit → Prop
  | byOption {history : List (Event console)} (outcome : Outcome console Unit)
      (hleft : LeftByOption history) : Leaves (history, outcome)
  | byFatal {history : List (Event console)} (message : String)
      (hfatal : Happened Fatal history) (hstays : ¬ Happened Disconnects history) :
      Leaves (history, .raised (.exception message))
  | byInterrupt {history : List (Event console)} (hunharmed : ¬ Happened Fatal history) :
      Leaves (history, .raised .keyboardInterrupt)
  | goesOn {history : List (Event console)} (hunharmed : ¬ Happened Fatal history) :
      Leaves (history, .running)

/-- A part of the loop that is accounted for and raises is a way out of the loop. -/
theorem leaves_of_accounted {history : List (Event console)} {error : PyError}
    (haccounted : Accounted Fatal Disconnects Escaping history
      (.raised error : Outcome console Unit)) : Leaves (history, .raised error) := by
  cases error with
  | exception message => exact .byFatal message (haccounted.fatal_iff.mpr trivial) haccounted.stays
  | keyboardInterrupt => exact .byInterrupt (haccounted.fatal_iff.not.mpr not_false)

theorem not_fatal_disconnect (answer : Except PyError Unit) :
    ¬ Fatal ⟨.tool .networkDisconnect, answer⟩ := by
  rcases answer with (_ | _) | _ <;> exact not_false

/-- Option 14, whatever `network.disconnect` does. -/
theorem leaves_disconnect (surroundings : Surroundings console) {history : List (Event console)}
    (hchosen : Happened ChoosesExit history) (hfatal : ¬ Happened Fatal history) :
    Leaves ((ask (.tool .networkDisconnect)).run surroundings history) := by
  have hleft (answer : Except PyError Unit) :
      LeftByOption (history ++ [⟨.tool .networkDisconnect, answer⟩]) := {
    chosen := by
      obtain ⟨event, hevent, hline⟩ := hchosen
      exact ⟨event, List.mem_append_left _ hevent, hline⟩
    disconnected := happened_concat history rfl
    unharmed := not_happened_concat hfatal (not_fatal_disconnect answer) }
  exact Program.run_perform_cases surroundings (fun _ ↦ .byOption _ (hleft _))
    fun _ ↦ .byOption _ (hleft _)

/-- Every run of the main loop leaves it in one of these ways, by induction on the lines typed at
the main menu. -/
theorem mainLoop_leaves (edsFiles : List String) (fuel passes : ℕ) (nodes : Table)
    (surroundings : Surroundings console) {history : List (Event console)}
    (hneither : Neither Fatal Disconnects history) :
    Leaves ((mainLoop edsFiles fuel passes nodes).run surroundings history) := by
  induction passes generalizing nodes history with
  | zero => exact .goesOn hneither.1
  | succ passes ih =>
    have hrefresh : Unguarded .manualRefresh := trivial
    have hmenu : Unguarded (.input .mainMenu) := trivial
    refine Program.run_perform_bind_cases surroundings (fun error ↦ ?_) fun drawn ↦ ?_
    · have hfatal := fatal_error_iff hrefresh not_false error
      exact leaves_of_accounted (accounted_error hneither nofun hfatal)
    have hdrawn : Neither Fatal Disconnects (history ++ [⟨.manualRefresh, .ok drawn⟩]) :=
      hneither.concat not_false nofun
    refine Program.run_perform_bind_cases surroundings (fun error ↦ ?_) fun line ↦ ?_
    · have hfatal := fatal_error_iff hmenu not_false error
      exact leaves_of_accounted (accounted_error hdrawn nofun hfatal)
    have hread : Neither Fatal Disconnects
        (history ++ [⟨.manualRefresh, .ok drawn⟩] ++ [⟨.input .mainMenu, .ok line⟩]) :=
      hdrawn.concat not_false nofun
    refine Program.run_ite_cases surroundings (fun hexit ↦ ?_) fun _ ↦ ?_
    · exact leaves_disconnect surroundings (happened_concat _ hexit) hread.1
    · have hoption := accounts_runOption edsFiles fuel nodes (strip line) surroundings _ hread
      refine Program.run_bind_cases surroundings (fun after nodes hrun ↦ ?_)
        (fun after error hrun ↦ ?_) fun after hrun ↦ ?_
      all_goals rw [hrun] at hoption
      · exact ih nodes ⟨hoption.fatal_iff.not.mpr not_false, hoption.stays⟩
      · exact leaves_of_accounted ⟨hoption.stays, hoption.fatal_iff⟩
      · exact .goesOn (hoption.fatal_iff.not.mpr not_false)

/-! ### The session -/

/-- The user has ended the main loop: with option 14, or with Ctrl-C. -/
def EndedByUser : List (Event console) × Outcome console Unit → Prop
  | (history, .returned _) | (history, .raised (.exception _)) => Happened ChoosesExit history
  | (_, .raised .keyboardInterrupt) | (_, .running) => True

theorem Leaves.endedByUser {run : List (Event console) × Outcome console Unit}
    (hleaves : Leaves run) (hunharmed : ¬ Happened Fatal run.1) : EndedByUser run := by
  cases hleaves with
  | byOption outcome hleft =>
    rcases outcome with _ | (_ | _) | _
    · exact hleft.chosen
    · exact hleft.chosen
    · trivial
    · trivial
  | byFatal message hfatal hstays => exact absurd hfatal hunharmed
  | byInterrupt _ => trivial
  | goesOn _ => trivial

/-- The ways out of the part behind the connection. -/
inductive Closes : List (Event console) × Outcome console Unit → Prop
  | orderly {history : List (Event console)} (outcome : Outcome console Unit)
      (hunharmed : ¬ Happened Fatal history) (hdisconnected : Happened Disconnects history) :
      Closes (history, outcome)
  | harmed {history : List (Event console)} (message : String)
      (hfatal : Happened Fatal history) (hstays : ¬ Happened Disconnects history) :
      Closes (history, .raised (.exception message))
  | goesOn {history : List (Event console)} (hunharmed : ¬ Happened Fatal history) :
      Closes (history, .running)

/-- The handler disconnects on Ctrl-C, and does nothing on the other ways out of the main loop. -/
theorem session_closes (edsFiles : List String) (fuel passes : ℕ)
    (surroundings : Surroundings console) {history : List (Event console)}
    (hneither : Neither Fatal Disconnects history) :
    Closes ((session edsFiles fuel passes).run surroundings history) := by
  have hleaves := mainLoop_leaves edsFiles fuel passes [] surroundings hneither
  refine Program.run_tryCatch_cases surroundings (fun after value hrun ↦ ?_)
    (fun after error hrun ↦ ?_) fun after hrun ↦ ?_
  all_goals rw [hrun] at hleaves
  · cases hleaves with
    | byOption _ hleft => exact .orderly _ hleft.unharmed hleft.disconnected
  · cases error with
    | exception message =>
      cases hleaves with
      | byOption _ hleft => exact .orderly _ hleft.unharmed hleft.disconnected
      | byFatal _ hfatal hstays => exact .harmed message hfatal hstays
    | keyboardInterrupt =>
      have hunharmed : ¬ Happened Fatal after := by
        cases hleaves with
        | byOption _ hleft => exact hleft.unharmed
        | byInterrupt hunharmed => exact hunharmed
      have hclosed (answer : Except PyError Unit) (outcome : Outcome console Unit) :
          Closes (after ++ [⟨.tool .networkDisconnect, answer⟩], outcome) :=
        .orderly outcome (not_happened_concat hunharmed (not_fatal_disconnect answer))
          (happened_concat after rfl)
      exact Program.run_perform_cases surroundings (fun _ ↦ hclosed _ _) fun _ ↦ hclosed _ _
  · cases hleaves with
    | byOption _ hleft => exact .goesOn hleft.unharmed
    | goesOn hunharmed => exact .goesOn hunharmed

theorem Closes.disconnected_iff {run : List (Event console) × Outcome console Unit}
    (hcloses : Closes run) :
    (run.2 ≠ .running → Happened Disconnects run.1) ↔ ¬ Happened Fatal run.1 := by
  cases hcloses with
  | orderly _ hunharmed hdisconnected => exact iff_of_true (fun _ ↦ hdisconnected) hunharmed
  | harmed _ hfatal hstays => exact iff_of_false (fun h ↦ hstays (h nofun)) (not_not.mpr hfatal)
  | goesOn hunharmed => exact iff_of_true (fun h ↦ absurd rfl h) hunharmed

/-- Behind a connection: the user ends the loop, and the network is disconnected at the end, exactly
when nothing fatal has happened. -/
theorem session_iff (edsFiles : List String) (fuel passes : ℕ) (surroundings : Surroundings console)
    {history : List (Event console)} (hneither : Neither Fatal Disconnects history) :
    EndedByUser ((mainLoop edsFiles fuel passes []).run surroundings history) ∧
        (((session edsFiles fuel passes).run surroundings history).2 ≠ .running →
          Happened Disconnects ((session edsFiles fuel passes).run surroundings history).1) ↔
      ¬ Happened Fatal ((session edsFiles fuel passes).run surroundings history).1 := by
  rw [(session_closes edsFiles fuel passes surroundings hneither).disconnected_iff]
  refine and_iff_right_of_imp fun hunharmed ↦ ?_
  have hleaves := mainLoop_leaves edsFiles fuel passes [] surroundings hneither
  exact hleaves.endedByUser fun hfatal ↦ hunharmed (happened_tryCatch hfatal _)

/-! ### The result -/

/-- A run of `main` in its surroundings. -/
def mainRun (surroundings : Surroundings console) (edsPaths : List String) (fuel passes : ℕ) :
    List (Event console) × Outcome console Unit :=
  (main edsPaths fuel passes).run surroundings []

/-- A connected session ends by the user only, and `main` does not end without a disconnect. -/
structure Orderly (surroundings : Surroundings console) (edsPaths : List String)
    (fuel passes : ℕ) : Prop where
  ended : ∀ connected history edsFiles,
    (start edsPaths).run surroundings [] = (connected, .returned edsFiles) →
      startMonitor.run surroundings connected = (history, .returned ()) →
        EndedByUser ((mainLoop edsFiles fuel passes []).run surroundings history)
  disconnected : Happened Connects (mainRun surroundings edsPaths fuel passes).1 →
    (mainRun surroundings edsPaths fuel passes).2 ≠ .running →
      Happened Disconnects (mainRun surroundings edsPaths fuel passes).1

/-- What follows the connection in `main`. -/
def afterStart (edsFiles : List String) (fuel passes : ℕ) : Dialog Unit := do
  startMonitor
  session edsFiles fuel passes

/-- Behind a connection: when the `try` is reached the user ends the loop, and the network is
disconnected at the end, exactly when nothing fatal has happened. -/
theorem afterStart_iff (edsFiles : List String) (fuel passes : ℕ)
    (surroundings : Surroundings console) {connected : List (Event console)}
    (hneither : Neither Fatal Disconnects connected) :
    (∀ history, startMonitor.run surroundings connected = (history, .returned ()) →
        EndedByUser ((mainLoop edsFiles fuel passes []).run surroundings history)) ∧
      (((afterStart edsFiles fuel passes).run surroundings connected).2 ≠ .running →
        Happened Disconnects ((afterStart edsFiles fuel passes).run surroundings connected).1) ↔
      ¬ Happened Fatal ((afterStart edsFiles fuel passes).run surroundings connected).1 := by
  have hmonitor := accounts_startMonitor surroundings connected hneither
  have hafter : (afterStart edsFiles fuel passes).run surroundings connected = _ :=
    Program.run_bind surroundings startMonitor (fun _ ↦ session edsFiles fuel passes) connected
  rw [hafter]
  rcases hrun : startMonitor.run surroundings connected with ⟨history, _ | error⟩
  all_goals rw [hrun] at hmonitor
  · have hreached : Neither Fatal Disconnects history :=
      ⟨hmonitor.fatal_iff.not.mpr not_false, hmonitor.stays⟩
    refine Iff.trans (and_congr_left' ?_) (session_iff edsFiles fuel passes surroundings hreached)
    constructor
    · intro hended
      exact hended history rfl
    · rintro hended other hother
      cases hother
      exact hended
  · refine iff_of_false ?_ (not_not.mpr (hmonitor.fatal_iff.mpr trivial))
    rintro ⟨_, hdisconnected⟩
    exact hmonitor.stays (hdisconnected nofun)
  · refine iff_of_true ⟨nofun, fun hended ↦ absurd rfl hended⟩ ?_
    exact hmonitor.fatal_iff.not.mpr not_false

/-- For every user and every network: the session is orderly exactly when nothing fatal happens in
it once the network is connected. -/
theorem orderly_iff (surroundings : Surroundings console) (edsPaths : List String)
    (fuel passes : ℕ) :
    Orderly surroundings edsPaths fuel passes ↔
      (Happened Connects (mainRun surroundings edsPaths fuel passes).1 →
        ¬ Happened Fatal (mainRun surroundings edsPaths fuel passes).1) := by
  have hnothing {kind : Event console → Prop} : ¬ Happened kind [] := by rintro ⟨_, ⟨⟩, _⟩
  have hreturns := returnsBy_start edsPaths surroundings [] hnothing
  have haccounted := accounts_start edsPaths surroundings [] ⟨hnothing, hnothing⟩
  have hmain : mainRun surroundings edsPaths fuel passes = _ :=
    Program.run_bind surroundings (start edsPaths) (afterStart · fuel passes) []
  rcases hstart : (start edsPaths).run surroundings [] with ⟨connected, edsFiles | error⟩
  all_goals
    rw [hstart] at hreturns haccounted hmain
    dsimp only at hreturns haccounted hmain
  · have hneither : Neither Fatal Disconnects connected :=
      ⟨haccounted.fatal_iff.not.mpr not_false, haccounted.stays⟩
    have hafter := afterStart_iff edsFiles fuel passes surroundings hneither
    rw [← hmain] at hafter
    have hconnected : Happened Connects (mainRun surroundings edsPaths fuel passes).1 :=
      hmain ▸ happened_run (hreturns.mpr ⟨edsFiles, rfl⟩) surroundings _
    constructor
    · rintro ⟨hended, hdisconnected⟩ _
      refine hafter.mp ⟨fun history hmonitor ↦ ?_, hdisconnected hconnected⟩
      exact hended connected history edsFiles hstart hmonitor
    · intro hunharmed
      obtain ⟨hended, hdisconnected⟩ := hafter.mpr (hunharmed hconnected)
      refine ⟨fun other history otherFiles hother hmonitor ↦ ?_, fun _ ↦ hdisconnected⟩
      cases hstart.symm.trans hother
      exact hended history hmonitor
  all_goals
    have hunconnected : ¬ Happened Connects (mainRun surroundings edsPaths fuel passes).1 := by
      rw [hmain]
      exact hreturns.not.mpr nofun
    refine iff_of_true ⟨fun other history otherFiles hother ↦ ?_, ?_⟩ fun hconnected ↦ ?_
    · cases hstart.symm.trans hother
    · exact fun hconnected ↦ absurd hconnected hunconnected
    · exact absurd hconnected hunconnected

/-- A user who connects with the default settings and types `abc` as the first node id. -/
def typesLetters : Surroundings console := fun _ op ↦
  match op with
  | .input .mainMenu => .ok "1"
  | .input .nodeId => .ok "abc"
  | .input _ => .ok ""
  | .connect _ _ | .printEstablished | .eventMonitor | .threadStart | .manualRefresh => .ok ()
  | _ => .error .keyboardInterrupt

/-- The letters end the session with a `ValueError`, and the network stays connected. -/
theorem not_orderly_typesLetters : ¬ Orderly typesLetters [] 1 1 := by
  intro horderly
  have hrun : mainRun typesLetters [] 1 1 =
      ([⟨.input .interface, .ok ""⟩, ⟨.input .baudrate, .ok ""⟩, ⟨.connect "vcan0" 125000, .ok ()⟩,
        ⟨.printEstablished, .ok ()⟩, ⟨.eventMonitor, .ok ()⟩, ⟨.threadStart, .ok ()⟩,
        ⟨.manualRefresh, .ok ()⟩, ⟨.input .mainMenu, .ok "1"⟩, ⟨.input .nodeId, .ok "abc"⟩],
        .raised (.exception "invalid literal for int() with base 10: 'abc'")) := by
    rfl
  have hdisconnected := horderly.disconnected
  rw [hrun] at hdisconnected
  obtain ⟨event, hevent, hdisconnects⟩ :=
    hdisconnected ⟨⟨.connect "vcan0" 125000, .ok ()⟩, by simp, trivial⟩ nofun
  simp only [List.mem_cons, List.not_mem_nil, or_false] at hevent
  rcases hevent with rfl | rfl | rfl | rfl | rfl | rfl | rfl | rfl | rfl <;> cases hdisconnects

end CanopenTools.Interactive.Console
