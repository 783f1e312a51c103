import Vigil.Proofs.Client.Indifferent
import Vigil.Proofs.Console.Commands

/-!
# What the console keeps while it talks

A command of the console calls the client and prints what came of it. A frame that is kept while a
client converses, and that does not mind what is printed, is kept by every command.

* `Console.Talks`: the frames of this kind.
* `Console.Talks.execute`: they are kept by every word.
-/

namespace Vigil.Console

open Act Client

variable {F : Frame (Scene (Watch Client))} {α : Type}

/-- A frame that does not mind what is said. -/
structure Talks (F : Frame (Scene (Watch Client))) : Prop extends Converses F where
  alter_world : ∀ f : World → World, Respects F (Act.alter f)
  reported : ∀ id, Respects F (Act.note (.heartbeatCallback id))

namespace Talks

theorem print (h : Talks F) (line : String) : Respects F (Act.print line) := h.alter_world _

theorem printText (h : Talks F) (text : LooseText) : Respects F (Act.printText text) :=
  .bind (.orStumble _) fun _ => h.print _

theorem report (h : Talks F) (result : Result α) (done : LooseText) :
    Respects F (report result done) := by
  unfold Console.report
  split
  · refine .bind (h.printText _) fun _ => ?_
    split
    · exact h.print _
    · exact .pure _
  · exact h.printText _

theorem mentionSkipped (h : Talks F) (skipped : Option ProtocolFault) :
    Respects F (mentionSkipped skipped) := by
  unfold Console.mentionSkipped
  split
  · exact h.print _
  · exact .pure _

theorem showItems (h : Talks F) (items : List Item) (skipped : Option ProtocolFault) :
    Respects F (showItems items skipped) := by
  unfold Console.showItems
  split
  · exact h.print _
  · exact .bind (h.print _) fun _ => .bind (.forM fun _ => h.printText _) fun _ =>
      .bind (h.mentionSkipped _) fun _ => h.print _

theorem showStatus (h : Talks F) (status : ServiceStatus) (skipped : Option ProtocolFault) :
    Respects F (showStatus status skipped) := by
  refine .bind (h.print _) fun _ => .bind (.forM fun p => ?_) fun _ =>
    .bind (h.mentionSkipped _) fun _ => h.print _
  exact .bind .world fun w => .bind (.orStumble _) fun _ => h.printText _

theorem listItems (h : Talks F) : Respects F listItems := by
  refine .bind (h.request _ _) fun result => ?_
  split
  · exact h.printText _
  · exact h.showItems _ _

theorem status (h : Talks F) (serviceName : String) : Respects F (status serviceName) := by
  have supervisor : Respects F tellSupervisor := by
    refine .bind (h.request _ _) fun result => ?_
    split
    · exact h.printText _
    · exact h.showStatus _ _
  have service : Respects F (tellService serviceName) := by
    refine .bind h.upholds.isInstalled fun installed => ?_
    dsimp only
    split
    · exact .bind h.upholds.isRunning fun _ => h.print _
    · exact h.print _
  rw [status_eq]
  exact .bind service fun _ => supervisor

theorem addItem (h : Talks F) (settings : Settings) (args : List String) :
    Respects F (addItem settings args) := by
  have made : Respects F (newItem? settings args) := by
    unfold newItem?
    split
    · exact .bind (h.print _) fun _ => .pure _
    · exact .bind .world fun w => .bind (.orStumble _) fun _ => .pure _
  refine .bind made fun item => ?_
  split
  · exact .bind (h.toConverses.addItem _) fun _ => h.report _ _
  · exact .pure _

theorem toggleVerbose (h : Talks F) : Respects F toggleVerbose := by
  refine .bind (h.alter_world _) fun _ => .bind .world fun w => ?_
  dsimp only
  split
  · exact .bind (h.print _) fun _ => h.log _ _ _ _
  · exact h.print _

theorem withArgument (h : Talks F) (command : Command) (name : String) (args : List String)
    {x : String → Deed Unit} (hx : ∀ arg, Respects F (x arg)) :
    Respects F (withArgument command name args x) := by
  cases args with
  | nil => exact h.print _
  | cons arg rest => exact hx arg

theorem withItem (h : Talks F) (command : Command) (done : String) (args : List String)
    {x : String → Deed (Result Content)} (hx : ∀ id, Respects F (x id)) :
    Respects F (withItem command done args x) :=
  h.withArgument _ _ _ fun id => .bind (hx id) fun _ => h.report _ _

/-- What is called is reported. -/
theorem reporting (h : Talks F) {x : Deed (Result α)} (hx : Respects F x) (done : LooseText) :
    Respects F (do Console.report (← x) done) := .bind hx fun _ => h.report _ _

/-- **Every command keeps such a frame.** -/
theorem run (h : Talks F) (settings : Settings) (args : List String) (command : Command) :
    Respects F (run settings args command) := by
  cases command with
  | uninstall => exact h.reporting (h.upholds.serviceCall _ Controller.uninstall_scopes) _
  | start => exact h.reporting h.upholds.startService _
  | stop => exact h.reporting (h.upholds.serviceCall _ Controller.stop_scopes) _
  | status => exact h.status _
  | list => exact h.listItems
  | add => exact h.addItem settings args
  | verbose => exact h.toggleVerbose
  | help => exact .forM fun _ => h.print _
  | exit => exact .pure _
  | remove => exact h.withItem _ _ _ h.upholds.removeItem
  | pause => exact h.withItem _ _ _ h.upholds.stopItem
  | resume => exact h.withItem _ _ _ h.upholds.startItem
  | heartbeat => exact h.withItem _ _ _ fun id => h.sendHeartbeat (h.reported id)
  | install => exact h.withArgument _ _ _ fun path => h.reporting (h.upholds.installService path) _
  | setup => exact h.withArgument _ _ _ fun path => h.reporting (h.upholds.quickSetup path) _

theorem execute (h : Talks F) (settings : Settings) (word : String) (args : List String) :
    Respects F (execute settings word args) := by
  refine .bind (h.log _ _ _ _) fun _ => ?_
  split
  · exact .bind (h.run settings args _) fun _ => .pure _
  · exact .bind (h.log _ _ _ _) fun _ => .pure _

end Talks

end Vigil.Console
