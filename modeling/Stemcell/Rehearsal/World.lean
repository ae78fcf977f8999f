import Stemcell.CommandLine.Run
import Stemcell.Console
import Stemcell.Rehearsal.Outside
/-!
Rehearsing a whole run of the program: the world outside follows a script, and what the user reads is kept.
-/
namespace Stemcell.Rehearsal

/-- The state of a run. -/
structure World where
  environ : Environment := []
  outside : Outside := {}
  console : Console := {}
  /-- What was written for the user, the last piece first. -/
  written : List String := []
  deriving Inhabited

namespace World

def onOutside {α : Type} (a : Action Outside α) : Action World α :=
  a.within World.outside fun outside w => { w with outside }

def onConsole {α : Type} (a : Action Console α) : Action World α :=
  a.within World.console fun console w => { w with console }

instance : Log.Sink World where
  write record := .ofEval fun w => (onConsole (Console.take w.environ record)).eval w

def facilities : Facilities World where
  start request := onOutside (Outside.start request)
  link :=
    { connect := fun host port timeout => onOutside (Outside.connect host port timeout)
      session := fun account => do
        let options := Remote.SessionOptions.standard account
        let run ← onOutside (Outside.session (.text options.endpoint) options.username options.password)
        pure fun command => onOutside (run command) }
  sleep interval := onOutside (Outside.sleep interval)
  out :=
    { write := fun s => .ofEval fun w => (.ok (), { w with written := s :: w.written })
      flush := pure () }

/-- What the program finds in a world with these files and distributions. A script that is used up makes no
guest go off, so no more answers are waited for than there are in it. -/
def surroundings (w : World) (files : Files) (installed : List (String × Value)) :
    CommandLine.Surroundings World where
  facilities := facilities
  environ := w.environ
  files := files
  installed := installed
  patience := w.outside.programs.length + 1
  setUp verbose := onConsole (.ofEval fun c => (.ok (), c.setUp verbose))
  register value := onConsole (Console.register value)

/-- What the user reads as the result. -/
def stdout (w : World) : String := String.join w.written.reverse

/-- What the user reads besides. -/
def stderr (w : World) : String := CommandLine.Place.lines (w.console.lines.reverse.map ConsoleLine.text)

end World

end Stemcell.Rehearsal
