/-
# One command for each path

Several commands can be about one path, when documents have the same title or one takes the name
that another gives up.  A write wins over a delete, writes of one content are one write, and
writes of different contents are one write of all contents, sorted, so that no text is lost.

Contents are sorted as texts, so what is written does not depend on the order in which the
documents were read.  They stand in the file line after line, each once.

The commands that are left stand in the order in which their paths come first among the commands.
A command that is alone at its path stays as it is, with its tree and the path it was read from; a
write of several contents is read anew from its text, and no longer knows where its parts were
authored.
-/
import TaskNotes.Plan.Command
import TaskNotes.Text.NaturalOrder

namespace TaskNotes

/-- The one command that stands for the commands about a path: a single command stays, the first of
several deletes stays, and of writes one is left, with the contents of all. -/
def mergeGroup (path : Path) (group : List Command) : List Command :=
  match group, writesOf group with
  | [], _ => []
  | [command], _ => [command]
  | first :: _ :: _, [] => [first]
  | _ :: _ :: _, w :: writes =>
    match sortUnique ((w :: writes).map (fun v => v.content.toList)) with
    | [_] => [.write w]
    | contents => [.write (.ofText path (String.ofList (joinLines contents)))]

/-- Leaves one command for each path, in the order in which the paths come first. -/
def mergeCommands (commands : List Command) : List Command :=
  (commands.map Command.path).eraseDups.flatMap fun path =>
    mergeGroup path (commands.filter (fun c => c.path == path))

end TaskNotes
