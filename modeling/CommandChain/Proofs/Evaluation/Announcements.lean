import CommandChain.Process.Playbook
import CommandChain.Proofs.Evaluation.Chains
import CommandChain.Proofs.Line.Input
import CommandChain.Proofs.Line.Pieces
import CommandChain.Proofs.Session.Log
import CommandChain.Proofs.Text.Quoted

/-!
# Announced commands are read back

A shell that traces announces each command that it executes, on a line of its own. From that line the
command can be read back: its words are printed so that a shell splits them again, and a word of a
line never holds a newline. So the announcements of a line are as many lines as commands were
executed, and tell which commands these were.
-/

namespace CommandChain

open CommandChain.Action

variable {state handle : Type}

/-! ## Shown commands -/

namespace Command

theorem wordsOfQuoted?_display (command : Command) :
    Text.wordsOfQuoted? command.display = some command.words :=
  Text.wordsOfQuoted?_quotedWords command.words

theorem display_injective : Function.Injective display := by
  intro first second same
  have sameWords : first.words = second.words := Text.quotedWords_injective same
  obtain ⟨sameBinary, sameArguments⟩ := List.cons.inj sameWords
  exact Command.ext sameBinary sameArguments

end Command

theorem isPlainWord_of_mem_commandsOfLine {line word : Text} {command : Command}
    (member : command ∈ commandsOfLine line) (inWords : word ∈ command.words) :
    IsPlainWord word := by
  obtain ⟨chains, isRead, wellFormed⟩ := exists_parseLine line
  rw [commandsOfLine, readChains_of_parseLine isRead] at member
  obtain ⟨chain, inChains, inChain⟩ := List.mem_flatMap.1 member
  obtain ⟨element, inElements, isCommand⟩ := List.mem_filterMap.1 inChain
  cases element with
  | operator operator => cases isCommand
  | command entry =>
      cases isCommand
      exact (wellFormed chain inChains).plainWords command inElements word inWords

/-- The only blanks in a command of a line, as it is shown, are the spaces between its words. -/
theorem eq_space_of_mem_display {line : Text} {command : Command} {symbol : Symbol}
    (ofLine : command ∈ commandsOfLine line) (member : symbol ∈ command.display)
    (blank : symbol.isBlank = true) : symbol = .char ' ' := by
  rcases Text.eq_mark_of_mem_quotedWords member with ⟨word, inWords, inWord⟩ | rfl | rfl | rfl
  · have plain := isPlainWord_of_mem_commandsOfLine ofLine inWords
    have notBlank := (plain.1.unbroken symbol inWord).1
    rw [blank] at notBlank
    cases notBlank
  · rfl
  · exact absurd blank (by decide)
  · exact absurd blank (by decide)

theorem newline_not_mem_display {line : Text} {command : Command}
    (ofLine : command ∈ commandsOfLine line) : Text.newline ∉ command.display := by
  intro member
  have isSpace := eq_space_of_mem_display ofLine member Symbol.isBlank_newline
  exact absurd isSpace (by decide)

/-! ## Announcements -/

/-- The text that announces a command. -/
def announcementText (command : Command) : Text :=
  (Diagnostic.running command).text

theorem announcementText_eq (command : Command) :
    announcementText command =
      (Text.ofString "Running: " ++ command.display) ++ [Text.newline] :=
  rfl

/-- The announcement of a command tells which command it is. -/
theorem announcementText_injective : Function.Injective announcementText := by
  intro first second same
  rw [announcementText_eq, announcementText_eq] at same
  have sameLines := List.append_cancel_right same
  exact Command.display_injective (List.append_cancel_left sameLines)

/-- Announcements one after another are the lines of their text. -/
theorem lines_flatMap_announcementText {commands : List Command}
    (noNewline : ∀ command ∈ commands, Text.newline ∉ command.display) :
    Text.lines (commands.flatMap announcementText) = commands.map announcementText := by
  induction commands with
  | nil => rfl
  | cons first later inductionHypothesis =>
      obtain ⟨firstNoNewline, laterNoNewline⟩ := List.forall_mem_cons.1 noNewline
      have labelNoNewline : Text.newline ∉ Text.ofString "Running: " := by decide
      have bodyNoNewline :
          Text.newline ∉ Text.ofString "Running: " ++ first.display := by
        rw [List.mem_append]
        exact not_or.2 ⟨labelNoNewline, firstNoNewline⟩
      rw [List.flatMap_cons, announcementText_eq, List.append_assoc, List.singleton_append,
        Text.lines_append_newline bodyNoNewline, inductionHypothesis laterNoNewline]
      rfl

/-- The command that an event announces. -/
def Event.announced? : Event handle → Option Command
  | .diagnostic (.running command) => some command
  | _ => none

/-- The commands that were announced, in order. -/
def announcedCommands (log : List (Event handle)) : List Command :=
  log.filterMap Event.announced?

theorem announcedCommands_append (log more : List (Event handle)) :
    announcedCommands (log ++ more) = announcedCommands log ++ announcedCommands more :=
  List.filterMap_append

theorem announcedCommands_replayEvents (stream : Stream) (bytes : Option (List UInt8)) :
    announcedCommands (replayEvents stream bytes : List (Event handle)) = [] := by
  match bytes with
  | none => rfl
  | some [] => rfl
  | some (_ :: _) => rfl

namespace Shell

variable (shell : Shell state handle)

/-! ## What is announced is executed -/

/-- A log that announces each command that it executes, if the shell traces, and none otherwise. -/
def AnnouncesExecuted (log : List (Event handle)) : Prop :=
  announcedCommands log = if shell.tracing then executedCommands log else []

theorem isAdditive_announcesExecuted : IsAdditive shell.AnnouncesExecuted where
  nil := by
    unfold AnnouncesExecuted
    split <;> rfl
  append := by
    intro log more first second
    unfold AnnouncesExecuted at first second ⊢
    rw [announcedCommands_append, executedCommands_append, first, second]
    split <;> rfl

theorem announcedCommands_announcement (command : Command) :
    announcedCommands (shell.announcement command) = if shell.tracing then [command] else [] := by
  unfold announcement
  split <;> rfl

theorem announcesExecuted_runCommand (command : Command) :
    Logs shell.AnnouncesExecuted (shell.runCommand command) := by
  intro initial
  unfold AnnouncesExecuted
  rw [executedCommands_runCommand]
  have run := shell.runCommand_spec command initial
  generalize shell.runCommand command initial = execution at run ⊢
  have announced := shell.announcedCommands_announcement command
  -- Behind the announcement of the command itself, nothing is announced in any of the four ways.
  cases run with
  | builtin named answered =>
      rw [announcedCommands_append, announced]
      exact List.append_nil _
  | refused noBuiltin answered =>
      rw [announcedCommands_append, announced]
      exact List.append_nil _
  | interrupted noBuiltin answered awaited =>
      rw [announcedCommands_append, announced]
      exact List.append_nil _
  | @ended process _ _ status noBuiltin answered awaited =>
      have replayed :
          announcedCommands
              (replayEvents .output status.output ++ replayEvents .diagnostics status.errors :
                List (Event handle)) = [] := by
        rw [announcedCommands_append, announcedCommands_replayEvents,
          announcedCommands_replayEvents]
        rfl
      have silent :
          announcedCommands
              (.spawn command (.ok process) :: .wait process (some status) ::
                (replayEvents .output status.output ++
                  replayEvents .diagnostics status.errors)) = [] := replayed
      rw [announcedCommands_append, announced, silent]
      exact List.append_nil _

theorem announcesExecuted_syntaxError (error : ShellError) :
    shell.AnnouncesExecuted [.diagnostic (.syntaxError error)] := by
  unfold AnnouncesExecuted
  split <;> rfl

theorem announcesExecuted_runLine (line : Text) (initial : state) :
    shell.AnnouncesExecuted (shell.runLine line initial).events :=
  logs_runLine shell.isAdditive_announcesExecuted shell.announcesExecuted_runCommand
    shell.announcesExecuted_syntaxError line initial

/-! ## What is executed is on the line -/

theorem mem_commandsOf_of_executed {elements : List Element} {initial : state} {command : Command}
    (executed : command ∈ executedCommands (shell.runElements elements initial).events) :
    command ∈ commandsOf elements := by
  rcases shell.passes_or_exists_first_stop elements initial with
    passes | ⟨before, element, later, outcome, rfl, passes, stops⟩
  · rw [shell.runElements_of_passes passes, executedCommands_eventsOfCommands] at executed
    exact executed
  · rw [shell.runElements_of_stops passes stops, executedCommands_eventsOfCommands] at executed
    rw [List.append_cons, commandsOf_append]
    exact List.mem_append_left _ executed

/-- What holds of each chain with its report holds of chains one after another. -/
theorem law_eventsOfChains {law : List (Event handle) → Prop} (additive : IsAdditive law)
    {chains : List Chain}
    (each : ∀ chain ∈ chains, ∀ world,
      law ((shell.runChain chain world).events ++ (shell.runChain chain world).outcome.report))
    (initial : state) : law (shell.eventsOfChains chains initial) := by
  induction chains generalizing initial with
  | nil => exact additive.nil
  | cons chain rest inductionHypothesis =>
      obtain ⟨ofChain, ofRest⟩ := List.forall_mem_cons.1 each
      exact additive.append (ofChain initial) (inductionHypothesis ofRest _)

theorem mem_commandsOfLine_of_executed {line : Text} {initial : state} {command : Command}
    (executed : command ∈ executedCommands (shell.runLine line initial).events) :
    command ∈ commandsOfLine line := by
  obtain ⟨ran, left, isRead, ended, events, final⟩ := shell.exists_chains_of_runLine line initial
  have additive :
      IsAdditive fun log : List (Event handle) =>
        ∀ other ∈ executedCommands log, other ∈ ran.flatMap fun chain => commandsOf chain.elements :=
    { nil := by simp [executedCommands]
      append := by
        intro log more first second
        rw [executedCommands_append, List.forall_mem_append]
        exact ⟨first, second⟩ }
  have onRan : command ∈ ran.flatMap fun chain => commandsOf chain.elements := by
    rw [events] at executed
    refine shell.law_eventsOfChains additive ?_ initial command executed
    intro chain inRan world other member
    have noneReported :
        executedCommands
          ((shell.runChain chain world).outcome.report : List (Event handle)) = [] := by
      cases (shell.runChain chain world).outcome <;> rfl
    rw [executedCommands_append, noneReported, List.append_nil] at member
    exact List.mem_flatMap.2 ⟨chain, inRan, shell.mem_commandsOf_of_executed member⟩
  rw [commandsOfLine, readChains_of_parseLine isRead, List.flatMap_append]
  exact List.mem_append_left _ onRan

/-- An announced command is read back. A shell splits what is shown of a command into the words of
that command, so different commands are shown and announced differently. What is shown of a command
of a line holds no newline. While a line is run, a shell that traces announces exactly the commands
that it executes, in order and all of them commands of the line, and the text of these announcements
has one line for each. -/
theorem announcements_read_back :
    (∀ command : Command, Text.wordsOfQuoted? command.display = some command.words) ∧
      (∀ first second : Command, first.display = second.display → first = second) ∧
      (∀ first second : Command,
        announcementText first = announcementText second → first = second) ∧
      (∀ line : Text, ∀ command ∈ commandsOfLine line, Text.newline ∉ command.display) ∧
      ∀ (line : Text) (initial : state),
        let log := (shell.runLine line initial).events
        let announced := announcedCommands log
        announced = (if shell.tracing then executedCommands log else []) ∧
          (∀ command ∈ announced, command ∈ commandsOfLine line) ∧
          Text.lines (announced.flatMap announcementText) = announced.map announcementText := by
  refine ⟨Command.wordsOfQuoted?_display, ?_, ?_, ?_, ?_⟩
  · intro first second same
    exact Command.display_injective same
  · intro first second same
    exact announcementText_injective same
  · intro line command member
    exact newline_not_mem_display member
  · intro line initial log announced
    have announcesExecuted : announced = if shell.tracing then executedCommands log else [] :=
      shell.announcesExecuted_runLine line initial
    have onLine : ∀ command ∈ announced, command ∈ commandsOfLine line := by
      intro command member
      rw [announcesExecuted] at member
      split at member
      · exact shell.mem_commandsOfLine_of_executed member
      · cases member
    refine ⟨announcesExecuted, onLine, ?_⟩
    apply lines_flatMap_announcementText
    exact fun command member => newline_not_mem_display (onLine command member)

/-- A command with a quote in its name, read from a line, and one with an empty argument and blanks
in another, which no line holds. -/
theorem announcements_read_back_of_quotes :
    let shell : Shell PlaybookState PlaybookProcess :=
      { processes := Playbook.processLayer {}, tracing := true }
    let line := Text.ofString "it's -n && it's -n"
    let read : Command := ⟨Text.ofString "it's", [Text.ofString "-n"], by decide⟩
    let built : Command := ⟨Text.ofString "it's", [[], Text.ofString "a\n\tb"], by decide⟩
    (read ∈ commandsOfLine line ∧ read.display = Text.ofString "'it'\"'\"'s' -n" ∧
        Text.newline ∉ read.display) ∧
      (built.display = Text.ofString "'it'\"'\"'s' '' 'a\n\tb'" ∧
        Text.wordsOfQuoted? built.display = some built.words) ∧
      announcedCommands (shell.runLine line {}).events =
        executedCommands (shell.runLine line {}).events := by
  intro shell line read built
  obtain ⟨readBack, _, _, noNewline, announced⟩ := announcements_read_back shell
  have onLine : read ∈ commandsOfLine line := by decide
  exact
    ⟨⟨onLine, by decide, noNewline line read onLine⟩, ⟨by decide, readBack built⟩,
      (announced line {}).1⟩

end Shell

end CommandChain
