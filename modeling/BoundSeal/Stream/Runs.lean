import BoundSeal.Lib.Run
import BoundSeal.Stream.Operations

/-!
# Runs of a stream

Any reads, writes and closings of an opened stream, over any backend.
-/

namespace BoundSeal.Stream

open Rust Lib Transport Execution

/-! ## Calls -/

inductive StreamCall where
  | read (maximumBytes : ℕ) (control : StreamControl)
  | write (bytes : Bytes) (control : StreamControl)
  | close

inductive StreamReply where
  | read (result : Except StreamError StreamReadResult)
  | write (result : Except StreamError StreamWriteResult)
  | close (result : Except StreamError StreamOperationReceipt)

def StreamReply.receipt : StreamReply → Option StreamOperationReceipt
  | .read (.ok result) => some result.receipt
  | .write (.ok result) => some result.receipt
  | .close (.ok receipt) => some receipt
  | _ => none

/-- The bytes of a reply's receipt, if it is about the direction. -/
def StreamReply.transferred (direction : StreamDirection) (reply : StreamReply) : ℕ :=
  match reply.receipt with
  | some receipt => if receipt.direction = some direction then receipt.transferredBytes else 0
  | none => 0

def StreamCall.direction : StreamCall → Option StreamDirection
  | .read _ _ => some .read
  | .write _ _ => some .write
  | .close => none

def StreamCall.stops : StreamCall → Bool
  | .read _ control | .write _ control => (controlOutcome control).isSome
  | .close => false

/-- The state does not take operations in the direction. -/
def StreamState.closedFor : StreamState → StreamDirection → Bool
  | .opened, _ | .writeClosed, .read | .readClosed, .write => false
  | _, _ => true

abbrev StreamEvent (B : Type) := Event (BoundedByteStream B) StreamCall StreamReply

namespace BoundedByteStream

variable {control : StreamControl}

section

variable {B : Type} {pre post : BoundedByteStream B}

variable {direction : StreamDirection}

theorem closedFor_eq_false (h : pre.ensureOpen direction = .ok ()) :
    pre.state.closedFor direction = false := by
  cases hstate : pre.state <;> cases direction <;> simp_all [ensureOpen, StreamState.closedFor]

theorem Operated.transferred {reply : StreamReply} {backend : B} {receipt : StreamOperationReceipt}
    (h : Operated direction pre backend receipt post) (hreceipt : reply.receipt = some receipt)
    (other : StreamDirection) : post.moved other = pre.moved other + reply.transferred other := by
  rw [StreamReply.transferred, hreceipt]
  dsimp only
  by_cases hsame : other = direction
  · rw [hsame, if_pos h.direction_eq, h.moved]
  · rw [if_neg, h.kept other hsame, Nat.add_zero]
    rw [h.direction_eq, Option.some.injEq]
    exact fun heq => hsame heq.symm

theorem stops_of_refusal {requested : ℕ} (h : pre.refusal direction requested control = none) :
    controlOutcome control = none ∧ pre.operationCount < pre.limits.maximumOperations := by
  unfold refusal at h
  split at h
  · cases h
  · next hcontrol =>
    refine ⟨hcontrol, not_le.mp fun hcount => ?_⟩
    rw [if_pos hcount] at h
    cases h

theorem terminal_of_controlOutcome {outcome : StreamOperationOutcome}
    (h : controlOutcome control = some outcome) (state : StreamState) :
    (terminalState outcome state).isTerminal = true := by
  unfold controlOutcome at h
  split_ifs at h <;> cases h <;> rfl

end

variable {B : Type} [ByteStreamBackend B]

def step (self : BoundedByteStream B) : StreamCall → Option (StreamReply × BoundedByteStream B)
  | .read maximumBytes control =>
    let (result, next) := self.read maximumBytes control
    some (.read result, next)
  | .write bytes control =>
    let (result, next) := self.write bytes control
    some (.write result, next)
  | .close =>
    let (result, next) := self.close
    some (.close result, next)

/-! ## One call -/

structure Stepped (pre : BoundedByteStream B) (call : StreamCall) (reply : StreamReply)
    (post : BoundedByteStream B) : Prop where
  sound : post.Sound
  limits : post.limits = pre.limits
  moved : ∀ direction, post.moved direction = pre.moved direction + reply.transferred direction
  failed : reply.receipt = none → post = pre
  done : pre.state.isTerminal = true → post = pre
  shut : ∀ direction, call.direction = some direction → pre.state.closedFor direction = true → post = pre
  spent : call ≠ .close → pre.limits.maximumOperations ≤ pre.operationCount → post.backend = pre.backend
  stopped : call.stops = true → post.backend = pre.backend ∧ (reply.receipt ≠ none → post.state.isTerminal = true)
  closed : call = .close → if pre.state.isTerminal then post = pre
    else post.backend = ByteStreamBackend.close pre.backend ∧ post.state = .closed

variable {pre post : BoundedByteStream B} {call : StreamCall} {reply : StreamReply}

theorem stepped_of_error (hpre : pre.Sound) (hreceipt : reply.receipt = none)
    (hclose : call = .close → pre.state.isTerminal = true) : Stepped pre call reply pre where
  sound := hpre
  limits := rfl
  moved direction := by simp [StreamReply.transferred, hreceipt]
  failed _ := rfl
  done _ := rfl
  shut _ _ _ := rfl
  spent _ _ := rfl
  stopped _ := ⟨rfl, fun h => absurd hreceipt h⟩
  closed h := by simp [hclose h]

theorem stepped_of_operation {direction : StreamDirection} {requested : ℕ}
    {receipt : StreamOperationReceipt} (hopen : pre.ensureOpen direction = .ok ())
    (hdirection : call.direction = some direction) (hstops : call.stops = (controlOutcome control).isSome)
    (hreceipt : reply.receipt = some receipt)
    (h : Stopped direction requested control pre receipt post ∨
      ∃ backend transferred outcome nextState kept,
        Answered direction requested control pre backend transferred outcome nextState kept receipt post) :
    Stepped pre call reply post := by
  have hne : call ≠ .close := by
    rintro rfl
    cases hdirection
  have hshut : ∀ other, call.direction = some other → pre.state.closedFor other = true → post = pre := by
    intro other hother hclosed
    rw [hdirection, Option.some.injEq] at hother
    rw [← hother, closedFor_eq_false hopen] at hclosed
    cases hclosed
  have hdone : pre.state.isTerminal = true → post = pre := by
    intro hterminal
    rw [not_terminal_of_ensureOpen hopen] at hterminal
    cases hterminal
  rcases h with hstopped | ⟨backend, transferred, outcome, nextState, kept, hanswered⟩
  · have hop := hstopped.operated
    refine ⟨hop.sound, hop.limits, hop.transferred hreceipt, ?_, hdone, hshut,
      fun _ _ => hop.backend_eq, ?_, fun h => absurd h hne⟩
    · rw [hreceipt]
      exact nofun
    · intro hflag
      refine ⟨hop.backend_eq, fun _ => ?_⟩
      rw [hstops, Option.isSome_iff_exists] at hflag
      obtain ⟨outcome, hcontrol⟩ := hflag
      have hrefusal := hstopped.refusal
      simp only [refusal, hcontrol, Option.some.injEq] at hrefusal
      rw [hstopped.state, ← hrefusal]
      exact terminal_of_controlOutcome hcontrol pre.state
  · have hop := hanswered.operated
    obtain ⟨hcontrol, hcount⟩ := stops_of_refusal hanswered.asked
    refine ⟨hop.sound, hop.limits, hop.transferred hreceipt, ?_, hdone, hshut, ?_, ?_, fun h => absurd h hne⟩
    · rw [hreceipt]
      exact nofun
    · intro _ hspent
      omega
    · intro hflag
      rw [hstops, hcontrol] at hflag
      cases hflag

/-- **Every call does what `Stepped` says.** -/
theorem stepped_of_step (hpre : pre.Sound) (hstep : pre.step call = some (reply, post)) :
    Stepped pre call reply post := by
  cases call with
  | read maximumBytes control =>
    rcases read_cases hpre maximumBytes control with ⟨e, hread⟩ | ⟨hopen, h⟩
    · simp only [step, hread] at hstep
      cases hstep
      exact stepped_of_error hpre rfl nofun
    · rcases h with ⟨receipt, post', hread, hstopped⟩ | ⟨kept, receipt, post', hread, hanswered⟩
      · simp only [step, hread] at hstep
        cases hstep
        exact stepped_of_operation hopen rfl rfl rfl (.inl hstopped)
      · simp only [step, hread] at hstep
        cases hstep
        exact stepped_of_operation hopen rfl rfl rfl (.inr ⟨_, _, _, _, kept, hanswered⟩)
  | write bytes control =>
    rcases write_cases hpre bytes control with ⟨e, hwrite⟩ | ⟨hopen, h⟩
    · simp only [step, hwrite] at hstep
      cases hstep
      exact stepped_of_error hpre rfl nofun
    · rcases h with ⟨receipt, post', hwrite, hstopped⟩ | ⟨kept, receipt, post', hwrite, hanswered⟩
      · simp only [step, hwrite] at hstep
        cases hstep
        exact stepped_of_operation hopen rfl rfl rfl (.inl hstopped)
      · simp only [step, hwrite] at hstep
        cases hstep
        exact stepped_of_operation hopen rfl rfl rfl (.inr ⟨_, _, _, _, kept, hanswered⟩)
  | close =>
    rcases close_cases hpre with ⟨hterminal, e, hclose⟩ |
      ⟨hopen, receipt, post', hclose, -, hlimits, hbackend, hstate, hdirection, hmoved, hsound⟩
    · simp only [step, hclose] at hstep
      cases hstep
      exact stepped_of_error hpre rfl fun _ => hterminal
    · simp only [step, hclose] at hstep
      cases hstep
      refine ⟨hsound, hlimits, ?_, nofun, ?_, nofun, fun h => absurd rfl h, nofun, ?_⟩
      · intro direction
        rw [hmoved, StreamReply.transferred]
        simp [StreamReply.receipt, hdirection]
      · intro hterminal
        rw [hopen] at hterminal
        cases hterminal
      · intro _
        rw [hopen]
        exact ⟨hbackend, hstate⟩

end BoundedByteStream

/-! ## Whole runs -/

/-- What holds of every run of a stream opened with the limits, over a backend that
keeps its calls. -/
structure StreamGuarantees {B : Type} (limits : StreamLimits)
    (es : List (StreamEvent (Recording B))) (now : BoundedByteStream (Recording B)) : Prop where
  readBytes : now.readBytes = (es.map fun e => e.output.transferred .read).sum
  writtenBytes : now.writtenBytes = (es.map fun e => e.output.transferred .write).sum
  readBudget : now.readBytes ≤ limits.maximumReadBytes
  writeBudget : now.writtenBytes ≤ limits.maximumWriteBytes
  /-- Only a timed out stream is past its total deadline. -/
  deadline : now.elapsedMilliseconds > limits.totalDeadlineMilliseconds → now.state = .timedOut
  /-- Past the last operation the backend is not read from or written to, -/
  spent : ∀ e ∈ es, e.input ≠ .close → limits.maximumOperations ≤ e.pre.operationCount →
    e.post.backend.calls = e.pre.backend.calls
  /-- nor in the call that asks for a stop, after which the stream stays as it is, -/
  stopped : ∀ e ∈ es, e.input.stops = true →
    e.post.backend.calls = e.pre.backend.calls ∧ (e.output.receipt ≠ none → now = e.post)
  shut : ∀ e ∈ es, ∀ direction, e.input.direction = some direction →
    e.pre.state.closedFor direction = true → e.post.backend.calls = e.pre.backend.calls
  /-- Closing asks it unless the stream is done, and ends the stream. -/
  closed : ∀ e ∈ es, e.input = .close → if e.pre.state.isTerminal then e.post = e.pre
    else e.post.backend.calls = e.pre.backend.calls ++ [.close] ∧ e.post.state = .closed
  /-- A terminal state is never left, and nothing else changes in it. -/
  terminal : ∀ e ∈ es, e.post.state.isTerminal = true → now = e.post
  failed : ∀ e ∈ es, e.output.receipt = none → e.post = e.pre

section

variable {B : Type} [ByteStreamBackend B] {start now : BoundedByteStream B} {es : List (StreamEvent B)}

open BoundedByteStream (Sound step stepped_of_step)

structure Accounted (start : BoundedByteStream B) (es : List (StreamEvent B)) (now : BoundedByteStream B) : Prop where
  sound : now.Sound
  limits : now.limits = start.limits
  moved : ∀ direction, now.moved direction =
    start.moved direction + (es.map fun e => e.output.transferred direction).sum
  terminal : ∀ e ∈ es, e.post.state.isTerminal = true → now = e.post

theorem Accounted.step {pre post : BoundedByteStream B} {call : StreamCall} {reply : StreamReply}
    (h : Accounted start es pre) (hstep : pre.step call = some (reply, post)) :
    Accounted start (es ++ [⟨pre, call, reply, post⟩]) post := by
  have hstepped := stepped_of_step h.sound hstep
  refine ⟨hstepped.sound, hstepped.limits.trans h.limits, ?_, ?_⟩
  · intro direction
    rw [hstepped.moved, h.moved, List.map_append, List.sum_append]
    simp [Nat.add_assoc]
  · intro e he hterminal
    rcases List.mem_append.mp he with hold | hlast
    · have hpre := h.terminal e hold hterminal
      rw [hstepped.done (hpre ▸ hterminal), hpre]
    · rw [List.mem_singleton.mp hlast]

theorem run_accounted (hstart : start.Sound) (hrun : Run step start es now) : Accounted start es now := by
  refine hrun.invariant (Accounted start) ⟨hstart, rfl, ?_, fun _ he => absurd he List.not_mem_nil⟩ ?_
  · intro direction
    rw [List.map_nil, List.sum_nil, Nat.add_zero]
  · intro es pre call reply post _ h hstep
    exact h.step hstep

end

section

variable {B : Type} [ByteStreamBackend B] {permit : TransportPermit} {receipt : ExecutionReceipt}
  {audit : ExecutorAuditChain} {limits : StreamLimits} {backend : Recording B}
  {start now : BoundedByteStream (Recording B)} {es : List (StreamEvent (Recording B))}

/-- **Every run of an opened stream keeps its accounts and its limits.** -/
theorem stream_guarantees (hopen : BoundedByteStream.open permit receipt audit limits backend = .ok start)
    (hrun : Run BoundedByteStream.step start es now) : StreamGuarantees limits es now := by
  have hopened := BoundedByteStream.opened_of_open hopen
  have haccounted := run_accounted hopened.sound hrun
  have hlimits : now.limits = limits := haccounted.limits.trans hopened.limits_eq
  have hsum : ∀ direction, now.moved direction = (es.map fun e => e.output.transferred direction).sum := by
    intro direction
    rw [haccounted.moved, hopened.moved, Nat.zero_add]
  -- every call was made in a state the run had reached
  have hstepped : ∀ e ∈ es, BoundedByteStream.Stepped e.pre e.input e.output e.post ∧ e.pre.limits = limits := by
    intro e he
    obtain ⟨k, hk⟩ := List.getElem?_of_mem he
    have hpre := run_accounted hopened.sound (hrun.before hk)
    exact ⟨BoundedByteStream.stepped_of_step hpre.sound (hrun.step_of_getElem? hk),
      hpre.limits.trans hopened.limits_eq⟩
  have hbudget := haccounted.sound.budget
  have hdeadline := haccounted.sound.deadline
  rw [hlimits] at hbudget hdeadline
  refine ⟨hsum .read, hsum .write, hbudget .read, hbudget .write, hdeadline, ?_, ?_, ?_, ?_,
    haccounted.terminal, fun e he => (hstepped e he).1.failed⟩
  · intro e he hne hspent
    obtain ⟨h, hl⟩ := hstepped e he
    rw [h.spent hne (hl ▸ hspent)]
  · intro e he hstops
    obtain ⟨hquiet, hterminal⟩ := (hstepped e he).1.stopped hstops
    exact ⟨by rw [hquiet], fun hreceipt => haccounted.terminal e he (hterminal hreceipt)⟩
  · intro e he direction hdirection hclosed
    rw [(hstepped e he).1.shut direction hdirection hclosed]
  · intro e he hclose
    have h := (hstepped e he).1.closed hclose
    split_ifs at h ⊢
    · exact h
    · rw [h.1]
      exact ⟨rfl, h.2⟩

end

/-! ## A stream for two more operations -/

/-- A connection that is there at once. -/
inductive Instant where
  | instant

instance : PermitBackend Instant where
  execute self _ _ _ := (⟨some 0, 0, 0, 0, none⟩, self)

/-- A backend that answers from lists: reads end with EOF, writes are accepted. -/
structure Scripted where
  reads : List BackendReadReport
  writes : List BackendWriteReport

instance : ByteStreamBackend Scripted where
  read self _ _ :=
    match self.reads with
    | [] => (⟨0, .eof⟩, self)
    | report :: reads => (report, { self with reads })
  write self bytes _ :=
    match self.writes with
    | [] => (⟨0, .written bytes.length⟩, self)
    | report :: writes => (report, { self with writes })
  close self := self

def testPermit : TransportPermit where
  ticketId := "ticket-1"
  decisionId := "decision-1"
  dnsContextId := "context-1"
  scheme := .https
  remoteIp := .v4 (.new 8 8 8 8)
  port := 443
  sni := some "app.example.com"
  httpHost := "app.example.com"
  redirectDepth := 0
  bindingHash := executorAuditGenesisHash

theorem exists_open {limits : StreamLimits} (hlimits : limits.validate = .ok limits) :
    ∃ receipt audit anchor chain, ∀ (B : Type) (backend : B),
      BoundedByteStream.open testPermit receipt audit limits backend =
        .ok (.fresh (streamGrant testPermit receipt anchor) limits backend chain) := by
  let executor : PermitExecutor Instant := ⟨⟨"executor-1"⟩, .instant, .new, 1⟩
  have hcompleted : (executor.execute testPermit executorAuditGenesisHash .conservativeDefault {}).1.map
      (·.outcome) = .ok .completed := by decide +kernel
  rcases executor.execute_cases testPermit executorAuditGenesisHash .conservativeDefault {} with
    ⟨e, herror⟩ | ⟨receipt, executor', hok, hexecuted⟩
  · rw [herror] at hcompleted
    cases hcompleted
  · rw [hok] at hcompleted
    have houtcome : receipt.outcome = .completed := Except.ok.inj hcompleted
    have haudit : executor.audit.verify = .ok () := HashChain.verify_start _ _
    obtain ⟨anchor, chain, hopen⟩ := BoundedByteStream.open_of_completed haudit
      (fun _ h => absurd h List.not_mem_nil) hexecuted houtcome hlimits
    exact ⟨receipt, executor'.audit, anchor, chain, hopen⟩

theorem validate_conservativeDefault :
    StreamLimits.conservativeDefault.validate = .ok .conservativeDefault := by decide +kernel

/-- A backend that sends three bytes and takes what is written. -/
def testBackend : Recording Scripted := ⟨⟨[⟨3, .data [1, 2, 3]⟩, ⟨1, .eof⟩], []⟩, []⟩

def testCalls : List StreamCall := [.write [1, 2, 3, 4, 5] {}, .read 16 {}, .close]

theorem stream_guarantees_testCalls :
    ∃ receipt audit start, ∃ (es : List (StreamEvent (Recording Scripted))) (now : _),
      BoundedByteStream.open testPermit receipt audit .conservativeDefault testBackend = .ok start ∧
      es.map (fun e => e.output.transferred .write) = [5, 0, 0] ∧
      es.map (fun e => e.output.transferred .read) = [0, 3, 0] ∧
      es.map (fun e => e.output.receipt.isSome) = [true, true, true] ∧
      StreamGuarantees .conservativeDefault es now := by
  obtain ⟨receipt, audit, anchor, chain, hopen⟩ := exists_open validate_conservativeDefault
  have hcalls : (runCalls BoundedByteStream.step
      (.fresh (streamGrant testPermit receipt anchor) .conservativeDefault testBackend chain) testCalls).map
      (fun run => (run.1.map (fun e => e.output.transferred .write), run.1.map (fun e => e.output.transferred .read),
        run.1.map (fun e => e.output.receipt.isSome))) =
      some ([5, 0, 0], [0, 3, 0], [true, true, true]) := rfl
  obtain ⟨es, now, hrun, hes⟩ := exists_run_of_map_runCalls hcalls
  simp only [Prod.mk.injEq] at hes
  exact ⟨receipt, audit, _, es, now, hopen _ _, hes.1, hes.2.1, hes.2.2, stream_guarantees (hopen _ _) hrun⟩

/-- Limits for a stream whose only operation is its opening. -/
def onceLimits : StreamLimits := { StreamLimits.conservativeDefault with maximumOperations := 1 }

theorem validate_onceLimits : onceLimits.validate = .ok onceLimits := by decide +kernel

/-- **Closing asks the backend past the last operation.** -/
theorem close_past_budget :
    ∃ receipt audit start, ∃ (es : List (StreamEvent (Recording Scripted))) (now : _),
      BoundedByteStream.open testPermit receipt audit onceLimits testBackend = .ok start ∧
      Run BoundedByteStream.step start es now ∧
      ∃ e ∈ es, onceLimits.maximumOperations ≤ e.pre.operationCount ∧ e.pre.backend.calls = [] ∧
        e.post.backend.calls = [.close] := by
  obtain ⟨receipt, audit, anchor, chain, hopen⟩ := exists_open validate_onceLimits
  have hclose : BoundedByteStream.step
      (.fresh (streamGrant testPermit receipt anchor) onceLimits testBackend chain) .close = some (_, _) := rfl
  exact ⟨receipt, audit, _, _, _, hopen _ _, .snoc .nil hclose, _, List.mem_singleton_self _, le_rfl, rfl, rfl⟩

end BoundSeal.Stream
