import LifePlan.Kind

/-!
# Help texts

The table of all commands, and an entry for each command on each item: its name, a summary of one line,
and for a command that takes numbers its usage, built from the lineage of the item.
-/

namespace LifePlan

/-- The help on one command. -/
structure HelpEntry where
  name : String
  summary : String
  usage : Option String
  deriving DecidableEq, Repr

namespace Help

/-- The table of all commands, in console markup. -/
def table : List String :=
  ["==================================================================================",
    "Documented commands (type [yellow]help[/yellow] <command> for more information):",
    "==================================================================================",
    "show, s      add goal        show goals        update goal        remove goal",
    "help, h, ?   add action      show actions      update action      remove action",
    "exit, x      add agreement   show agreements   update agreement   remove agreement",
    "exit!, x!    add alert       show alerts       update alert       remove alert",
    "clear, c     add result      show results      update result      remove result",
    "erase, e"]

/-- The kinds whose numbers a command needs: adding addresses the parent, the other commands address the
record itself. -/
def addressed (command : Command) (kind : Kind) : List Kind :=
  if command = .add then kind.lineage.dropLast else kind.lineage

/-- How a command on a kind of record is typed. -/
def usage (command : Command) (kind : Kind) : String :=
  " ".intercalate <|
    [command.name, kind.name] ++ (addressed command kind).map (fun k => "<" ++ k.name ++ " number>") ++
      if command = .remove then [] else ["[description]"]

/-- The article of a kind's name. -/
def article (kind : Kind) : String :=
  match kind with
  | .action | .agreement | .alert => "an"
  | .goal | .result => "a"

/-- The help on a command, where there is any. -/
def find? (command : Command) (item : Option Item) : Option HelpEntry :=
  match command, item with
  | .list, some .all => some ⟨"show", "show a life plan", none⟩
  | .list, some (.one kind) =>
    let plural := (Item.one kind).plural
    some ⟨"show " ++ plural, "show all " ++ plural, none⟩
  | .exit, none => some ⟨"exit", "save a life plan and exit", none⟩
  | .abandon, none => some ⟨"exit!", "exit without saving a life plan", none⟩
  | .clear, none => some ⟨"clear", "erase the screen", none⟩
  | .erase, none => some ⟨"erase", "clear the history", none⟩
  | .help, none => some ⟨"help", "prints help information", none⟩
  | .add, some (.one kind) | .update, some (.one kind) | .remove, some (.one kind) =>
    some ⟨command.name ++ " " ++ kind.name,
      command.name ++ " " ++ article kind ++ " " ++ kind.name, some (usage command kind)⟩
  | _, _ => none

/-- Every command and item that has an entry, with the entry. -/
def entries : List (Command × Option Item × HelpEntry) :=
  Command.all.flatMap fun command =>
    (none :: some .all :: Kind.all.map (some ∘ Item.one)).filterMap fun item =>
      (find? command item).map fun entry => (command, item, entry)

end Help

end LifePlan
