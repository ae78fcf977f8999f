import Stemcell.Assembly
import Stemcell.Proofs.Action

/-! A crew whose parts are all real, in surroundings that answer one question after the other. Each
part is told by the answers with which it succeeds and by the answers that are left behind it. -/
namespace Stemcell.Construct

open Stemcell.Action (succeeds_written)
open Config (Settings)

/-- What the surroundings are going to answer: the tool of the vCenter to its commands, the port of
the guest, and the sessions with the guest, which can fail before they take a command. -/
structure Answers where
  tool : Nat → List Value → Program.Report
  connection : Nat → Value → Nat → Outcome Unit
  session : Nat → Remote.Account → Outcome (Value → Outcome Remote.Response)

namespace Answers

/-- The answers behind the next one of the tool. -/
def afterTool (s : Answers) : Answers := { s with tool := fun n => s.tool (n + 1) }

def afterConnection (s : Answers) : Answers := { s with connection := fun n => s.connection (n + 1) }

def afterSession (s : Answers) : Answers := { s with session := fun n => s.session (n + 1) }

/-- The answer of the tool to a call, `n` answers from now. -/
def report (s : Answers) (n : Nat) (call : Hypervisor.Call) : Program.Report :=
  s.tool n ((VCenter.command call).toOption.getD [])

instance : Log.Sink Answers where
  write _ := pure ()

/-- Surroundings that take up no answer but those asked for, and in which the user reads on. -/
def facilities : Facilities Answers where
  start request := .ofEval fun s =>
    let report := s.tool 0 request.command
    (.ok (.ended report.status report.stdout report.stderr), s.afterTool)
  link :=
    { connect := fun host port _ => .ofEval fun s => (s.connection 0 host port, s.afterConnection)
      session := fun account => .ofEval fun s =>
        ((s.session 0 account).map fun run command => .ofOutcome (run command), s.afterSession) }
  sleep _ := pure ()
  out := ⟨fun _ => pure (), pure ()⟩

/-- The hypervisor in these surroundings. -/
abbrev hypervisor (environ : Environment) (settings : Settings) :
    Hypervisor.Call → Action Answers Value :=
  Assembly.hypervisor facilities environ settings.client

/-- The crew in these surroundings. -/
abbrev crew (environ : Environment) (settings : Settings) (version : Value) (attempts : Nat) :
    Crew Answers :=
  Assembly.crew facilities (hypervisor environ settings) version attempts settings

end Answers

variable {environ : Environment} {settings : Settings} {version : Value} {attempts : Nat}
  {goal : Unit → Answers → Prop} {s : Answers}

theorem succeeds_debug (channel : Log.Channel) (text : String) :
    (Log.debug channel text : Action Answers Unit).Succeeds goal s ↔ goal () s :=
  Action.succeeds_pure ()

theorem succeeds_announce (event : Progress) :
    ((Answers.crew environ settings version attempts).announce event).Succeeds goal s ↔ goal () s := by
  change (Answers.facilities.out.announce event).Succeeds goal s ↔ goal () s
  rw [Stream.announce, Action.succeeds_bind]
  exact (Action.succeeds_pure ()).trans (Action.succeeds_pure ())

/-! Calls of the tool. -/

/-- The parameters that go into commands and words can be written, as every text can. -/
structure Writable (settings : Settings) : Prop where
  path : settings.guest.inventoryPath.isWritable
  username : settings.guest.username.isWritable
  password : settings.guest.password.isWritable
  host : settings.account.host.isWritable

theorem writable_of_texts (h : ∀ field, ∃ text, settings.value field = .text text) :
    Writable settings := by
  have hwritable : ∀ field, (settings.value field).isWritable := by
    intro field
    obtain ⟨text, htext⟩ := h field
    rw [htext]
    rfl
  exact ⟨hwritable _, hwritable _, hwritable _, hwritable _⟩

/-- Calls for a guest, the other arguments of which are texts. -/
inductive Textual (guest : Guest) : Hypervisor.Call → Prop where
  | makeDirectory (path : String) : Textual guest (.makeDirectory guest (.text path))
  | upload (source destination : String) :
    Textual guest (.upload guest (.text source) (.text destination))
  | start (command : String) (arguments : List String) :
    Textual guest (.start guest (.text command) (arguments.map .text))
  | waitForExit (pid : String) : Textual guest (.waitForExit guest (.text pid))
  | isPoweredOff : Textual guest (.isPoweredOff guest.inventoryPath)

theorem words_text (texts : List String) (place : Nat) :
    Program.words place (texts.map .text) = .ok texts := by
  induction texts generalizing place with
  | nil => rfl
  | cons t rest ih =>
    have hkind : (Value.text t).kind = .text := rfl
    rw [List.map_cons, Program.words, if_pos hkind, ih]
    rfl

theorem Textual.command {guest : Guest} {call : Hypervisor.Call} (h : Textual guest call)
    (hpath : guest.inventoryPath.isWritable) :
    ∃ texts : List String, VCenter.command call = .ok (texts.map .text) := by
  obtain ⟨argument, hargument⟩ : ∃ argument,
      VCenter.pathArgument guest.inventoryPath = .ok (.text argument) := by
    rw [VCenter.pathArgument, Value.written, if_pos hpath]
    exact ⟨_, rfl⟩
  cases h with
  | makeDirectory path =>
    refine ⟨[VCenter.tool, "guest.mkdir", argument, "-p", path], ?_⟩
    rw [VCenter.command, hargument]
    rfl
  | upload source destination =>
    refine ⟨[VCenter.tool, "guest.upload", "-f", argument, source, destination], ?_⟩
    rw [VCenter.command, hargument]
    rfl
  | start command arguments =>
    refine ⟨VCenter.tool :: "guest.start" :: argument :: command :: arguments, ?_⟩
    rw [VCenter.command, hargument]
    rfl
  | waitForExit pid =>
    refine ⟨[VCenter.tool, "guest.ps", argument, s!"-p={pid}", "-X", "-json"], ?_⟩
    rw [VCenter.command, hargument]
    rfl
  | isPoweredOff =>
    refine ⟨[VCenter.tool, "vm.info", argument, "-json"], ?_⟩
    rw [VCenter.command, hargument]
    rfl

theorem Textual.operation {guest : Guest} {call : Hypervisor.Call} (h : Textual guest call)
    (client : VCenter.Client) : ∃ operation, client.operation call = .ok operation := by
  cases h <;> exact ⟨_, rfl⟩

theorem Textual.environment {guest : Guest} {call : Hypervisor.Call} (h : Textual guest call)
    (client : VCenter.Client) (husername : guest.username.isWritable)
    (hpassword : guest.password.isWritable) :
    ∃ environment, client.environment call = .ok environment := by
  have hlogin : ∃ login, VCenter.loginText guest = .ok login := by
    rw [VCenter.loginText, Value.written, Value.written, if_pos husername, if_pos hpassword]
    exact ⟨_, rfl⟩
  obtain ⟨login, hlogin⟩ := hlogin
  cases h with
  | isPoweredOff => exact ⟨_, rfl⟩
  | _ =>
    simp only [VCenter.Client.environment, VCenter.guest?, hlogin]
    exact ⟨_, rfl⟩

theorem succeeds_run (texts : List String) (more : Environment) {goal : Program.Report → Answers → Prop} :
    (Program.run environ Answers.facilities.start (texts.map .text) more .null).Succeeds goal s ↔
      goal (s.tool 0 (texts.map .text)) s.afterTool := by
  have hstart : ∀ request, (Answers.facilities.start request).eval s = _ := fun _ => rfl
  unfold Program.run
  rw [words_text]
  simp only [Action.succeeds_bind, Action.succeeds_ofFault, Except.ok.injEq, exists_eq_left',
    succeeds_debug, Action.succeeds_of_ok (hstart _), Action.succeeds_pure]

/-- A call is one run of the tool, which has to end with the status zero and a usable answer. -/
theorem succeeds_hypervisor {call : Hypervisor.Call} (hs : Writable settings)
    (hcall : Textual settings.guest call) {goal : Value → Answers → Prop} :
    (Answers.hypervisor environ settings call).Succeeds goal s ↔
      (s.report 0 call).status.isZero ∧
        ∃ v, VCenter.answer call (s.report 0 call).stdout = .ok v ∧ goal v s.afterTool := by
  obtain ⟨texts, hcommand⟩ := hcall.command hs.path
  obtain ⟨operation, hoperation⟩ := hcall.operation settings.client
  obtain ⟨environment, henvironment⟩ := hcall.environment settings.client hs.username hs.password
  have hreport : s.report 0 call = s.tool 0 (texts.map .text) := by
    rw [Answers.report, hcommand]
    rfl
  rw [Answers.hypervisor, Assembly.hypervisor, VCenter.Client.perform, hcommand, hoperation,
    henvironment, hreport]
  simp only [Action.succeeds_bind, Action.succeeds_ofFault, Except.ok.injEq, exists_eq_left',
    succeeds_run, Action.succeeds_ite, Action.not_succeeds_fail]
  cases VCenter.answer call (s.tool 0 (texts.map .text)).stdout with
  | error f => simp
  | ok v => simp

/-! Requests to the remote management. -/

/-- The `n`th session from now opens, and this command of it ends with the status zero. -/
def AnswersZero (s : Answers) (n : Nat) (account : Remote.Account) (command : String) : Prop :=
  ∃ run response, s.session n account = .ok run ∧ run (.text command) = .ok response ∧
    response.status.isZero

theorem succeeds_connect (host timeout : Value) (port : Nat) :
    (Answers.facilities.link.connect host port timeout).Succeeds goal s ↔
      s.connection 0 host port = .ok () ∧ goal () s.afterConnection := by
  have heval : (Answers.facilities.link.connect host port timeout).eval s =
    (s.connection 0 host port, s.afterConnection) := rfl
  cases h : s.connection 0 host port with
  | error stop =>
    rw [h] at heval
    simp [Action.not_succeeds_of_error heval]
  | ok x =>
    rw [h] at heval
    simp [Action.succeeds_of_ok heval]

theorem succeeds_reach (account : Remote.Account) (timeout : Value) :
    (Remote.reach Answers.facilities.link account timeout).Succeeds goal s ↔
      s.connection 0 account.host Remote.port = .ok () ∧ goal () s.afterConnection := by
  rw [Remote.reach, Action.succeeds_orElse, succeeds_connect]
  intro f t
  simp

/-- A session and its one command. -/
theorem succeeds_session (account : Remote.Account) (command : Value)
    {goal : Remote.Response → Answers → Prop} :
    (Answers.facilities.link.session account).Succeeds
        (fun run t => (run command).Succeeds goal t) s ↔
      ∃ run response, s.session 0 account = .ok run ∧ run command = .ok response ∧
        goal response s.afterSession := by
  have heval : (Answers.facilities.link.session account).eval s =
    ((s.session 0 account).map fun run command => .ofOutcome (run command), s.afterSession) := rfl
  cases h : s.session 0 account with
  | error stop =>
    rw [h] at heval
    simp [Action.not_succeeds_of_error heval]
  | ok run =>
    have hrun : (Action.ofOutcome (run command) : Action Answers Remote.Response).eval s.afterSession =
      (run command, s.afterSession) := rfl
    rw [h] at heval
    rw [Action.succeeds_of_ok heval]
    cases hresponse : run command with
    | error stop =>
      rw [hresponse] at hrun
      simp [hresponse, Action.not_succeeds_of_error hrun]
    | ok response =>
      rw [hresponse] at hrun
      simp [hresponse, Action.succeeds_of_ok hrun]

theorem succeeds_execute (hs : Writable settings) (command : String) {goal : Answers → Prop} :
    (Remote.execute Answers.facilities.link settings.account (.text command)).Succeeds
        (fun _ => goal) s ↔
      AnswersZero s 0 settings.account command ∧ goal s.afterSession := by
  unfold Remote.execute Remote.exchange Remote.settle
  simp only [Action.succeeds_bind, succeeds_written hs.host, Value.written_text, Action.succeeds_ofFault,
    Except.ok.injEq, exists_eq_left', succeeds_debug, Action.succeeds_wrap, succeeds_session,
    Action.succeeds_ite, Action.succeeds_pure, Action.not_succeeds_fail, and_false, exists_false, ite_self,
    if_false_right]
  constructor
  · rintro ⟨run, response, hrun, hresponse, hzero, hgoal⟩
    exact ⟨⟨run, response, hrun, hresponse, hzero⟩, hgoal⟩
  · rintro ⟨⟨run, response, hrun, hresponse, hzero⟩, hgoal⟩
    exact ⟨run, response, hrun, hresponse, hzero, hgoal⟩

end Stemcell.Construct
