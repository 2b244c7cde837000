import CanopenTools.Bridge.EndToEnd
import CanopenTools.Bridge.MainThread
import CanopenTools.Effects.Residual

/-!
# The loop of the main thread and the sender of the machine

`_loop_can_to_tcp` is modelled twice: as a program, with its handlers and all that its calls may
raise (`canToTcpLoop`), and as the sender of the machine of threads, about which the results on
connections are. This module shows that they are the same. `State.code` is the code that is left at
a place of the sender, and `Traces` gives the calls, with their answers, that the sender makes in a
run of the machine.

After every run of the machine, in any interleaving with `_tcp_manager` and `stop`, the program has
made the calls of the sender, and what is left of it is the code at its place (`goes_of_traces`).
The way back is `movesOn_of_answers`: whatever a run of the program calls next, the sender calls,
and with an answer that the threads allow it moves along. `loop_refines` puts both together.
-/

set_option autoImplicit false
set_option relaxedAutoImplicit false

namespace CanopenTools.Bridge.Connections

open Effects MainThread Runs

open Effects.Program (Goes)

variable {K F O : Type}

/-! ### The calls of the sender -/

/-- An answer of `bus.recv` is of this kind. -/
def IsRecv : BusRecv → Except PyError (Option Message) → Prop
  | .timeout, .ok none => True
  | .message msg, .ok (some received) => received = msg
  | .keyboardInterrupt, .error .keyboardInterrupt => True
  | .otherError, .error error => error ≠ .keyboardInterrupt
  | _, _ => False

/-- An error that `sendall` raises is of this kind. -/
def IsSendError : SendError → PyError → Prop
  | .osError, error => error = .osError
  | .keyboardInterrupt, error => error = .keyboardInterrupt
  | .otherError, error => error = .exception ∨ error = .calledProcessError

section Calls

variable (python : PythonCan) (useFdCfg : Bool)

/-- The calls that an action of the sender completes, with their answers. Encoding is no call,
`sendall` is completed when it returns or raises, and an action that changes nothing is none. -/
inductive Calls (bridge : State) : SenderAction → List (Event (process K F O)) → Prop
  | stays {action : SenderAction} (hstays : bridge.senderStep useFdCfg action = bridge) :
    Calls bridge action []
  | loopTest (hat : bridge.sender = .loopTest) :
    Calls bridge .loopTest [⟨.isSet, .ok bridge.stopEvent⟩]
  | recv (hat : bridge.sender = .recv) {outcome : BusRecv}
    {answer : Except PyError (Option Message)} (hanswer : IsRecv outcome answer) :
    Calls bridge (.recv outcome) [⟨.busRecv, answer⟩]
  | encode : Calls bridge .encode []
  | readSock {number : ℕ} {payload : List UInt8} (hat : bridge.sender = .readSock number payload) :
    Calls bridge .readSock [⟨.readSock, .ok bridge.sock⟩]
  | write (count : ℕ) : Calls bridge (.write count) []
  | sendallReturns {number connection : ℕ} (hat : bridge.sender = .sendall number connection []) :
    Calls bridge .sendallReturns
      [⟨.sendall connection (recordNumber useFdCfg bridge.messages number), .ok ()⟩]
  | sendallRaises {number connection : ℕ} {rest : List UInt8} {error : SendError} {raised : PyError}
    (hat : bridge.sender = .sendall number connection rest) (hraised : IsSendError error raised) :
    Calls bridge (.sendallRaises error)
      [⟨.sendall connection (recordNumber useFdCfg bridge.messages number), .error raised⟩]

/-- The calls of the sender in a run of the machine. -/
inductive Traces : List Action → List (Event (process K F O)) → Prop
  | nil : Traces [] []
  | sender {actions : List Action} {before calls : List (Event (process K F O))}
    {action : SenderAction} (hbefore : Traces actions before)
    (hcalls : Calls useFdCfg (run python useFdCfg actions) action calls) :
    Traces (actions ++ [.sender action]) (before ++ calls)
  | manager {actions : List Action} {before : List (Event (process K F O))} (action : ManagerAction)
    (hbefore : Traces actions before) : Traces (actions ++ [.manager action]) before
  | stop {actions : List Action} {before : List (Event (process K F O))}
    (hbefore : Traces actions before) :
    Traces (actions ++ [.stop]) before

/-- The number of passes that have begun or ended the loop. -/
def passes (calls : List (Event (process K F O))) : ℕ :=
  calls.countP fun event ↦
    match event.op with
    | .isSet => true
    | _ => false

end Calls

/-! ### The code at a place -/

section Code

variable (useFdCfg : Bool) (fuel : ℕ)

/-- The rest of a pass whose message is being handled, and the passes after it. -/
def passEnd (handling : Script K F O Unit) : Script K F O Unit := do
  let goesOn ← Program.tryCatch (do
    handling
    pure true) fun
      | .keyboardInterrupt => pure false
      | .exception | .osError | .calledProcessError => pure true
  if goesOn then canToTcpLoop useFdCfg fuel else pure ()

/-- The call of `sendall` with its handler. -/
def sendOn (connection : ℕ) (payload : List UInt8) : Script K F O Unit :=
  (ask (.sendall connection payload)).tryCatch fun
    | .osError => pure ()
    | error => .raise error

/-- What is left of the loop at the place of the sender, with fuel for some more passes. -/
def State.code (bridge : State) : Script K F O Unit :=
  match bridge.sender with
  | .loopTest => canToTcpLoop useFdCfg fuel
  | .recv => do
    let goesOn ← canToTcpBody useFdCfg
    if goesOn then canToTcpLoop useFdCfg fuel else pure ()
  | .encode _ msg => passEnd useFdCfg fuel (handleMessage useFdCfg (some msg))
  | .readSock _ payload => passEnd useFdCfg fuel (sendRecord payload)
  | .sendall number connection _ =>
    passEnd useFdCfg fuel (sendOn connection (recordNumber useFdCfg bridge.messages number))
  | .ended => pure ()

end Code

variable {useFdCfg : Bool} {bridge : State} {fuel : ℕ}

/-- The code depends on the place and on the messages. -/
theorem code_eq_of_place {after : State} (hsender : after.sender = bridge.sender)
    (hmessages : after.messages = bridge.messages) :
    (after.code useFdCfg fuel : Script K F O Unit) = bridge.code useFdCfg fuel := by
  rw [State.code, State.code, hsender, hmessages]

/-! ### One action -/

theorem goes_loopTest (hat : bridge.sender = .loopTest) :
    Goes (bridge.code useFdCfg (fuel + 1) : Script K F O Unit) [⟨.isSet, .ok bridge.stopEvent⟩]
      ((bridge.senderStep useFdCfg .loopTest).code useFdCfg fuel) := by
  rw [State.senderStep, if_pos hat, State.code, State.code, hat]
  cases bridge.stopEvent with
  | true => exact .call _ (.refl _)
  | false => exact .call _ (.refl _)

theorem goes_recv (hat : bridge.sender = .recv) {outcome : BusRecv}
    {answer : Except PyError (Option Message)} (hanswer : IsRecv outcome answer) :
    Goes (bridge.code useFdCfg fuel : Script K F O Unit) [⟨.busRecv, answer⟩]
      ((bridge.senderStep useFdCfg (.recv outcome)).code useFdCfg fuel) := by
  rw [State.senderStep, if_pos hat, State.code, hat]
  rcases answer with error | received
  · cases outcome with
    | keyboardInterrupt =>
      cases error with
      | keyboardInterrupt => exact .call _ (.refl _)
      | _ => exact hanswer.elim
    | otherError =>
      cases error with
      | keyboardInterrupt => exact absurd rfl hanswer
      | _ => exact .call _ (.refl _)
    | _ => exact hanswer.elim
  · cases received with
    | none =>
      cases outcome with
      | timeout => exact .call _ (.refl _)
      | _ => exact hanswer.elim
    | some msg =>
      cases outcome with
      | message received =>
        obtain rfl : msg = received := hanswer
        exact .call _ (.refl _)
      | _ => exact hanswer.elim

/-- Encoding is no call: the code before it has the same calls ahead. -/
theorem code_encode (bridge : State) :
    ((bridge.senderStep useFdCfg .encode).code useFdCfg fuel : Script K F O Unit) =
      bridge.code useFdCfg fuel := by
  simp only [State.senderStep]
  split
  next number msg hat =>
    rw [State.senderEncode]
    cases hpayload : frameFromCan msg useFdCfg with
    | error error =>
      simp only [State.code, hat, handleMessage, hpayload]
      rfl
    | ok payload => simp only [State.code, hat, handleMessage, hpayload]
  · rfl

/-- A part of `sendall` is no call. -/
theorem code_write (bridge : State) (count : ℕ) :
    ((bridge.senderStep useFdCfg (.write count)).code useFdCfg fuel : Script K F O Unit) =
      bridge.code useFdCfg fuel := by
  simp only [State.senderStep]
  split
  next number connection rest hat =>
    rw [State.senderWrite]
    split_ifs
    · simp only [State.code, hat]
      rfl
    · rfl
  · rfl

theorem goes_readSock (hsound : SenderSound useFdCfg bridge) {number : ℕ} {payload : List UInt8}
    (hat : bridge.sender = .readSock number payload) :
    Goes (bridge.code useFdCfg fuel : Script K F O Unit) [⟨.readSock, .ok bridge.sock⟩]
      ((bridge.senderStep useFdCfg .readSock).code useFdCfg fuel) := by
  obtain ⟨-, hrecord⟩ := hsound.at_readSock hat
  simp only [State.senderStep, hat, State.senderReadSock]
  cases hsock : bridge.sock with
  | none =>
    simp only [State.code, hat]
    exact .call _ (.refl _)
  | some connection =>
    simp only [State.code, hat, hrecord]
    exact .call _ (.refl _)

theorem goes_sendallReturns {number connection : ℕ}
    (hat : bridge.sender = .sendall number connection []) :
    Goes (bridge.code useFdCfg fuel : Script K F O Unit)
      [⟨.sendall connection (recordNumber useFdCfg bridge.messages number), .ok ()⟩]
      ((bridge.senderStep useFdCfg .sendallReturns).code useFdCfg fuel) := by
  simp only [State.senderStep, State.code, hat]
  exact .call _ (.refl _)

theorem goes_sendallRaises {number connection : ℕ} {rest : List UInt8} {error : SendError}
    {raised : PyError} (hat : bridge.sender = .sendall number connection rest)
    (hraised : IsSendError error raised) :
    Goes (bridge.code useFdCfg fuel : Script K F O Unit)
      [⟨.sendall connection (recordNumber useFdCfg bridge.messages number), .error raised⟩]
      ((bridge.senderStep useFdCfg (.sendallRaises error)).code useFdCfg fuel) := by
  simp only [State.senderStep, State.sendallRaises, State.code, hat]
  cases error with
  | osError =>
    obtain rfl : raised = .osError := hraised
    exact .call _ (.refl _)
  | keyboardInterrupt =>
    obtain rfl : raised = .keyboardInterrupt := hraised
    exact .call _ (.refl _)
  | otherError => rcases hraised with rfl | rfl <;> exact .call _ (.refl _)

/-- The program makes the calls of an action and goes on with the code at the next place. -/
theorem goes_sender (hsound : SenderSound useFdCfg bridge) {action : SenderAction}
    {calls : List (Event (process K F O))} (hcalls : Calls useFdCfg bridge action calls)
    (fuel : ℕ) :
    Goes (bridge.code useFdCfg (fuel + passes calls)) calls
      ((bridge.senderStep useFdCfg action).code useFdCfg fuel) := by
  cases hcalls with
  | stays hstays =>
    rw [hstays]
    exact .refl _
  | loopTest hat => exact goes_loopTest hat
  | recv hat hanswer => exact goes_recv hat hanswer
  | encode =>
    rw [code_encode]
    exact .refl _
  | readSock hat => exact goes_readSock hsound hat
  | write count =>
    rw [code_write]
    exact .refl _
  | sendallReturns hat => exact goes_sendallReturns hat
  | sendallRaises hat hraised => exact goes_sendallRaises hat hraised

/-! ### Whole runs -/

section Runs

variable {python : PythonCan} {actions : List Action} {calls : List (Event (process K F O))}

theorem run_concat (action : Action) :
    run python useFdCfg (actions ++ [action]) =
      step python useFdCfg (run python useFdCfg actions) action :=
  runFrom_concat actions action

/-- The program makes the calls of the sender, in any interleaving, and goes on with the code at its
place. -/
theorem goes_of_traces (htraces : Traces python useFdCfg actions calls) (fuel : ℕ) :
    Goes (canToTcpLoop useFdCfg (fuel + passes calls)) calls
      ((run python useFdCfg actions).code useFdCfg fuel) := by
  induction htraces generalizing fuel with
  | nil => exact .refl _
  | @sender actions before calls action hbefore hcalls ih =>
    have hsound := (advancing_run python useFdCfg actions).1
    rw [run_concat, passes, List.countP_append, Nat.add_comm (before.countP _), ← Nat.add_assoc]
    exact (ih (fuel + passes calls)).trans (goes_sender hsound hcalls fuel)
  | @manager actions before action hbefore ih =>
    have hsame := untouched_managerStep python (run python useFdCfg actions) action
    rw [run_concat, step, code_eq_of_place hsame.sender hsame.messages]
    exact ih fuel
  | @stop actions before hbefore ih =>
    have hsame := untouched_stopStep (run python useFdCfg actions)
    rw [run_concat, step, code_eq_of_place hsame.sender hsame.messages]
    exact ih fuel

/-- With any fuel the program makes the calls of the sender, unless its fuel is used up on the way.
-/
theorem exists_code_of_traces (htraces : Traces python useFdCfg actions calls) (fuel : ℕ) :
    (∃ left, Goes (canToTcpLoop useFdCfg fuel) calls
      ((run python useFdCfg actions).code useFdCfg left)) ∨
      ∃ front, front <+: calls ∧ Goes (canToTcpLoop useFdCfg fuel) front .unfinished := by
  induction htraces with
  | nil => exact Or.inl ⟨fuel, .refl _⟩
  | @sender actions before calls action hbefore hcalls ih =>
    rcases ih with ⟨left, hgoes⟩ | ⟨front, hfront, hgoes⟩
    · have hsound := (advancing_run python useFdCfg actions).1
      by_cases hleft : passes calls ≤ left
      · obtain ⟨fewer, rfl⟩ := Nat.exists_eq_add_of_le' hleft
        refine Or.inl ⟨fewer, ?_⟩
        rw [run_concat]
        exact hgoes.trans (goes_sender hsound hcalls fewer)
      · refine Or.inr ⟨before, List.prefix_append _ _, ?_⟩
        cases hcalls with
        | loopTest hat =>
          obtain rfl : left = 0 := Nat.lt_one_iff.mp (Nat.lt_of_not_le hleft)
          rwa [State.code, hat] at hgoes
        | _ => exact absurd (Nat.zero_le left) hleft
    · exact Or.inr ⟨front, hfront.trans (List.prefix_append _ _), hgoes⟩
  | @manager actions before action hbefore ih =>
    have hsame := untouched_managerStep python (run python useFdCfg actions) action
    rw [run_concat, step]
    exact ih.imp_left fun ⟨left, hgoes⟩ ↦
      ⟨left, (code_eq_of_place hsame.sender hsame.messages).symm ▸ hgoes⟩
  | @stop actions before hbefore ih =>
    have hsame := untouched_stopStep (run python useFdCfg actions)
    rw [run_concat, step]
    exact ih.imp_left fun ⟨left, hgoes⟩ ↦
      ⟨left, (code_eq_of_place hsame.sender hsame.messages).symm ▸ hgoes⟩

/-- Where the program goes on with something other than the end of its fuel, that is the code at the
place of the sender. -/
theorem eq_code_of_goes (htraces : Traces python useFdCfg actions calls) {rest : Script K F O Unit}
    (hgoes : Goes (canToTcpLoop useFdCfg fuel) calls rest) (hrest : rest ≠ .unfinished) :
    ∃ left, rest = (run python useFdCfg actions).code useFdCfg left := by
  rcases exists_code_of_traces htraces fuel with ⟨left, hcode⟩ | ⟨front, ⟨more, rfl⟩, hfront⟩
  · exact ⟨left, hgoes.unique hcode⟩
  · obtain ⟨middle, hmiddle, hlast⟩ := hgoes.split
    obtain rfl := hmiddle.unique hfront
    exact absurd (Program.goes_unfinished hlast) hrest

end Runs

/-! ### The way back -/

section Back

variable {python : PythonCan} {actions : List Action} {calls : List (Event (process K F O))}

/-- The threads allow an answer: the event and the socket are as they are, and `sendall` returns
when everything is written or still can be. -/
def Answers (bridge : State) : Event (process K F O) → Prop
  | ⟨.isSet, answer⟩ => answer = .ok bridge.stopEvent
  | ⟨.readSock, answer⟩ => answer = .ok bridge.sock
  | ⟨.sendall connection _, .ok _⟩ =>
    ∀ number rest, bridge.sender = .sendall number connection rest →
      rest = [] ∨ (bridge.connections connection).Accepts
  | _ => True

/-- The sender moves on by a call. -/
def MovesOn (python : PythonCan) (useFdCfg : Bool) (actions : List Action)
    (calls : List (Event (process K F O))) (event : Event (process K F O)) : Prop :=
  ∃ more : List SenderAction,
    Traces python useFdCfg (actions ++ more.map .sender) (calls ++ [event])

theorem movesOn_of_calls (htraces : Traces python useFdCfg actions calls) {action : SenderAction}
    {event : Event (process K F O)}
    (hcalls : Calls useFdCfg (run python useFdCfg actions) action [event]) :
    MovesOn python useFdCfg actions calls event :=
  ⟨[action], .sender htraces hcalls⟩

theorem exists_isRecv (answer : Except PyError (Option Message)) :
    ∃ outcome, IsRecv outcome answer := by
  rcases answer with error | received
  · cases error with
    | keyboardInterrupt => exact ⟨.keyboardInterrupt, trivial⟩
    | _ => exact ⟨.otherError, nofun⟩
  · cases received with
    | none => exact ⟨.timeout, trivial⟩
    | some msg => exact ⟨.message msg, rfl⟩

theorem exists_isSendError (raised : PyError) : ∃ error, IsSendError error raised := by
  cases raised with
  | osError => exact ⟨.osError, rfl⟩
  | keyboardInterrupt => exact ⟨.keyboardInterrupt, rfl⟩
  | exception => exact ⟨.otherError, Or.inl rfl⟩
  | calledProcessError => exact ⟨.otherError, Or.inr rfl⟩

/-- The rest is written, and `sendall` returns. -/
theorem movesOn_sendallReturns (htraces : Traces python useFdCfg actions calls)
    {number connection : ℕ} {rest : List UInt8}
    (hat : (run python useFdCfg actions).sender = .sendall number connection rest)
    (hrest : rest = [] ∨ ((run python useFdCfg actions).connections connection).Accepts) :
    MovesOn python useFdCfg actions calls
      ⟨.sendall connection (recordNumber useFdCfg (run python useFdCfg actions).messages number),
        .ok ()⟩ := by
  have hwritten : Traces python useFdCfg (actions ++ [.sender (.write rest.length)])
      (calls ++ []) :=
    .sender htraces (.write rest.length)
  rw [List.append_nil] at hwritten
  have hdone : (run python useFdCfg (actions ++ [.sender (.write rest.length)])).sender =
      .sendall number connection [] ∧
        (run python useFdCfg (actions ++ [.sender (.write rest.length)])).messages =
          (run python useFdCfg actions).messages := by
    rw [run_concat]
    simp only [step, State.senderStep, hat, State.senderWrite]
    split_ifs with haccepts
    · exact ⟨by rw [List.drop_length], rfl⟩
    · obtain rfl := hrest.resolve_right haccepts
      exact ⟨hat, rfl⟩
  have hreturns := Traces.sender hwritten (.sendallReturns (K := K) (F := F) (O := O) hdone.1)
  rw [hdone.2, List.append_assoc] at hreturns
  exact ⟨[.write rest.length, .sendallReturns], hreturns⟩

/-- Away from encoding, the next call of the code at the place of the sender is its next call. -/
theorem movesOn_of_code (htraces : Traces python useFdCfg actions calls)
    {event : Event (process K F O)} {left : ℕ}
    {next : Except PyError event.op.Result → Script K F O Unit}
    (hcode : (run python useFdCfg actions).code useFdCfg left = .call event.op next)
    (hencode : ∀ number msg, (run python useFdCfg actions).sender ≠ .encode number msg)
    (hanswers : Answers (run python useFdCfg actions) event) :
    MovesOn python useFdCfg actions calls event := by
  obtain ⟨op, answer⟩ := event
  cases hat : (run python useFdCfg actions).sender with
  | loopTest =>
    rw [State.code, hat] at hcode
    cases left with
    | zero => exact absurd hcode nofun
    | succ left =>
      obtain rfl : Op.isSet = op := (Program.call.inj hcode).1
      obtain rfl : answer = .ok _ := hanswers
      exact movesOn_of_calls htraces (.loopTest hat)
  | recv =>
    rw [State.code, hat] at hcode
    obtain rfl : Op.busRecv = op := (Program.call.inj hcode).1
    obtain ⟨outcome, houtcome⟩ := exists_isRecv answer
    exact movesOn_of_calls htraces (.recv hat houtcome)
  | encode number msg => exact absurd hat (hencode number msg)
  | readSock number payload =>
    rw [State.code, hat] at hcode
    obtain rfl : Op.readSock = op := (Program.call.inj hcode).1
    obtain rfl : answer = .ok _ := hanswers
    exact movesOn_of_calls htraces (.readSock hat)
  | sendall number connection rest =>
    rw [State.code, hat] at hcode
    obtain rfl : Op.sendall connection
        (recordNumber useFdCfg (run python useFdCfg actions).messages number) = op :=
      (Program.call.inj hcode).1
    rcases answer with raised | _
    · obtain ⟨error, herror⟩ := exists_isSendError raised
      exact movesOn_of_calls htraces (.sendallRaises hat herror)
    · exact movesOn_sendallReturns htraces hat (hanswers number rest hat)
  | ended =>
    rw [State.code, hat] at hcode
    exact absurd hcode nofun

/-- After encoding the sender tests the event or reads the socket, and nothing else has changed. -/
theorem exists_senderEncode (bridge : State) (useFdCfg : Bool) (number : ℕ) (msg : Message) :
    ∃ place, (place = .loopTest ∨ ∃ payload, place = .readSock number payload) ∧
      bridge.senderEncode useFdCfg number msg = { bridge with sender := place } := by
  rw [State.senderEncode]
  cases frameFromCan msg useFdCfg with
  | error error => exact ⟨.loopTest, Or.inl rfl, rfl⟩
  | ok payload => exact ⟨.readSock number payload, Or.inr ⟨payload, rfl⟩, rfl⟩

theorem answers_of_place {event : Event (process K F O)} {place : SenderAt} {number : ℕ}
    (hplace : place = .loopTest ∨ ∃ payload, place = .readSock number payload)
    (hanswers : Answers bridge event) : Answers { bridge with sender := place } event := by
  obtain ⟨op, answer⟩ := event
  cases op with
  | sendall connection payload =>
    cases answer with
    | error error => trivial
    | ok result =>
      intro number rest hat
      rcases hplace with rfl | ⟨payload, rfl⟩ <;> cases hat
  | isSet => exact hanswers
  | readSock => exact hanswers
  | _ => trivial

/-- The next call of the code at the place of the sender is its next call, after encoding if it is
there. -/
theorem movesOn_of_answers (htraces : Traces python useFdCfg actions calls)
    {event : Event (process K F O)} {left : ℕ}
    {next : Except PyError event.op.Result → Script K F O Unit}
    (hcode : (run python useFdCfg actions).code useFdCfg left = .call event.op next)
    (hanswers : Answers (run python useFdCfg actions) event) :
    MovesOn python useFdCfg actions calls event := by
  by_cases hencode : ∃ number msg, (run python useFdCfg actions).sender = .encode number msg
  · obtain ⟨number, msg, hat⟩ := hencode
    have hencoded : Traces python useFdCfg (actions ++ [.sender .encode]) (calls ++ []) :=
      .sender htraces .encode
    rw [List.append_nil] at hencoded
    obtain ⟨place, hplace, hafter⟩ :=
      exists_senderEncode (run python useFdCfg actions) useFdCfg number msg
    have hrun : run python useFdCfg (actions ++ [.sender .encode]) =
        { run python useFdCfg actions with sender := place } := by
      rw [run_concat]
      simpa only [step, State.senderStep, hat] using hafter
    have hcode' : (run python useFdCfg (actions ++ [.sender .encode])).code useFdCfg left =
        .call event.op next := by
      rw [run_concat]
      exact (code_encode _).trans hcode
    have hnot : ∀ number msg,
        (run python useFdCfg (actions ++ [.sender .encode])).sender ≠ .encode number msg := by
      intro number msg hsender
      rw [hrun] at hsender
      rcases hplace with rfl | ⟨payload, rfl⟩ <;> cases hsender
    have hanswers' : Answers (run python useFdCfg (actions ++ [.sender .encode])) event := by
      rw [hrun]
      exact answers_of_place hplace hanswers
    obtain ⟨more, hmore⟩ := movesOn_of_code hencoded hcode' hnot hanswers'
    refine ⟨.encode :: more, ?_⟩
    rwa [List.append_assoc] at hmore
  · exact movesOn_of_code htraces hcode (fun number msg hat ↦ hencode ⟨number, msg, hat⟩) hanswers

end Back

/-! ### The loop and the sender -/

section Refinement

variable (python : PythonCan) (useFdCfg : Bool)

theorem exists_recvAnswer (outcome : BusRecv) : ∃ answer, IsRecv outcome answer := by
  cases outcome with
  | timeout => exact ⟨.ok none, trivial⟩
  | message msg => exact ⟨.ok (some msg), rfl⟩
  | keyboardInterrupt => exact ⟨.error .keyboardInterrupt, trivial⟩
  | otherError => exact ⟨.error .exception, nofun⟩

theorem exists_sendError (error : SendError) : ∃ raised, IsSendError error raised := by
  cases error with
  | osError => exact ⟨.osError, rfl⟩
  | otherError => exact ⟨.exception, Or.inl rfl⟩
  | keyboardInterrupt => exact ⟨.keyboardInterrupt, rfl⟩

/-- Every action of the sender has its calls. -/
theorem exists_calls (bridge : State) (action : SenderAction) :
    ∃ calls : List (Event (process K F O)), Calls useFdCfg bridge action calls := by
  cases action with
  | loopTest =>
    by_cases hat : bridge.sender = .loopTest
    · exact ⟨_, .loopTest hat⟩
    · exact ⟨[], .stays (if_neg hat)⟩
  | recv outcome =>
    by_cases hat : bridge.sender = .recv
    · obtain ⟨answer, hanswer⟩ := exists_recvAnswer outcome
      exact ⟨_, .recv hat hanswer⟩
    · exact ⟨[], .stays (if_neg hat)⟩
  | encode => exact ⟨[], .encode⟩
  | readSock =>
    by_cases hat : ∃ number payload, bridge.sender = .readSock number payload
    · obtain ⟨number, payload, hat⟩ := hat
      exact ⟨_, .readSock hat⟩
    · refine ⟨[], .stays ?_⟩
      simp only [State.senderStep]
      split
      next number payload hsender => exact absurd ⟨number, payload, hsender⟩ hat
      · rfl
  | write count => exact ⟨[], .write count⟩
  | sendallReturns =>
    by_cases hat : ∃ number connection, bridge.sender = .sendall number connection []
    · obtain ⟨number, connection, hat⟩ := hat
      exact ⟨_, .sendallReturns hat⟩
    · refine ⟨[], .stays ?_⟩
      simp only [State.senderStep]
      split
      next number connection hsender => exact absurd ⟨number, connection, hsender⟩ hat
      · rfl
  | sendallRaises error =>
    by_cases hat : ∃ number connection rest, bridge.sender = .sendall number connection rest
    · obtain ⟨number, connection, rest, hat⟩ := hat
      obtain ⟨raised, hraised⟩ := exists_sendError error
      exact ⟨_, .sendallRaises hat hraised⟩
    · refine ⟨[], .stays ?_⟩
      simp only [State.senderStep]
      split
      next number connection rest hsender => exact absurd ⟨number, connection, rest, hsender⟩ hat
      · rfl

/-- Every run of the machine has its calls. -/
theorem exists_traces (actions : List Action) :
    ∃ calls : List (Event (process K F O)), Traces python useFdCfg actions calls := by
  induction actions using List.reverseRecOn with
  | nil => exact ⟨[], .nil⟩
  | append_singleton actions action ih =>
    obtain ⟨before, hbefore⟩ := ih
    cases action with
    | sender action =>
      obtain ⟨calls, hcalls⟩ := exists_calls useFdCfg (run python useFdCfg actions) action
      exact ⟨before ++ calls, .sender hbefore hcalls⟩
    | manager action => exact ⟨before, .manager action hbefore⟩
    | stop => exact ⟨before, .stop hbefore⟩

/-- What is left is the value only when the sender has ended. -/
theorem ended_of_code {bridge : State} {left : ℕ}
    (hcode : (bridge.code useFdCfg left : Script K F O Unit) = .pure ()) :
    bridge.sender = .ended := by
  unfold State.code at hcode
  split at hcode
  · cases left <;> exact absurd hcode nofun
  · exact absurd hcode nofun
  next number msg hat =>
    unfold handleMessage at hcode
    dsimp only at hcode
    cases hpayload : frameFromCan msg useFdCfg with
    | error error =>
      rw [hpayload] at hcode
      cases left <;> exact absurd hcode nofun
    | ok payload =>
      rw [hpayload] at hcode
      exact absurd hcode nofun
  · exact absurd hcode nofun
  · exact absurd hcode nofun
  next hat => exact hat

/-- The loop of the main thread, as it is written with its handlers, and the sender of the machine
of threads are the same. Every run of the machine, in any interleaving, has calls; the program makes
these calls and is then at the code of the sender's place. Whatever a run of the program calls, with
an answer that the threads allow the sender moves on by this call. And when the program returns, the
sender has ended. -/
theorem loop_refines :
    (∀ actions, ∃ calls : List (Event (process K F O)), Traces python useFdCfg actions calls) ∧
      (∀ actions (calls : List (Event (process K F O))),
        Traces python useFdCfg actions calls → ∀ fuel,
        Goes (canToTcpLoop useFdCfg (fuel + passes calls)) calls
          ((run python useFdCfg actions).code useFdCfg fuel)) ∧
      ∀ (surroundings : Surroundings (process K F O)) fuel,
        (∀ before event after,
          ((canToTcpLoop useFdCfg fuel).run surroundings []).1 = before ++ event :: after →
            ∀ actions, Traces python useFdCfg actions before →
              Answers (run python useFdCfg actions) event →
              MovesOn python useFdCfg actions before event) ∧
          ∀ calls, (canToTcpLoop useFdCfg fuel).run surroundings [] = (calls, .returned ()) →
            ∀ actions, Traces python useFdCfg actions calls →
              (run python useFdCfg actions).sender = .ended := by
  refine ⟨exists_traces python useFdCfg, fun actions calls htraces ↦ goes_of_traces htraces, ?_⟩
  refine fun surroundings fuel ↦ ⟨fun before event after hrun actions htraces hanswers ↦ ?_,
    fun calls hrun actions htraces ↦ ?_⟩
  · obtain ⟨next, hgoes⟩ := @Program.exists_goes_of_run _ _ _ surroundings [] _ _ _ hrun
    obtain ⟨left, hcode⟩ := eq_code_of_goes htraces hgoes nofun
    exact movesOn_of_answers htraces hcode.symm hanswers
  · have hgoes : Goes (canToTcpLoop useFdCfg fuel) calls (.pure ()) :=
      Program.goes_of_returned surroundings hrun
    obtain ⟨left, hcode⟩ := eq_code_of_goes htraces hgoes nofun
    exact ended_of_code useFdCfg hcode.symm

end Refinement

end CanopenTools.Bridge.Connections
