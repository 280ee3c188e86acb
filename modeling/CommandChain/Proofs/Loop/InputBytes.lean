import CommandChain.CommandLine
import CommandChain.Proofs.Line.Endings
import CommandChain.Proofs.Session.ProcessCalls
import CommandChain.Proofs.Text.Utf8

/-!
# From the bytes of an input to the words of its commands

The program decodes its input, cuts it into lines and the lines into words, and starts commands with
these words. Encoded again, the words of a line are slices of its bytes, in their order, and only
blanks and operators lie between them (`SharesBytes`). Every undecodable byte keeps its place in such
a word (`InWord`), and no command is started that is not on a line.
-/

namespace CommandChain

variable {state handle : Type}

/-! ## Commands that are started -/

theorem chainsOfLine_eq (line : Text) : chainsOfLine line = (readChains line).map Chain.elements := by
  rw [chainsOfLine, parseLine_eq_readChains]

/-- Commands are only started while a chain that holds them is run. -/
theorem RunsChains.spawnsAmong {shell : Shell state handle} {chains : List (List Element)}
    {log : List (Event handle)} (runs : RunsChains shell chains log) :
    SpawnsAmong (fun spawned => ∃ elements ∈ chains, .command spawned ∈ elements) log := by
  induction runs with
  | nil => exact SpawnsAmong.isAdditive.nil
  | skip elements _ inductionHypothesis =>
      refine inductionHypothesis.mono ?_
      rintro spawned ⟨others, member, inOthers⟩
      exact ⟨others, List.mem_cons_of_mem elements member, inOthers⟩
  | own notCall _ inductionHypothesis =>
      exact SpawnsAmong.isAdditive.append (spawnsAmong_of_notCall notCall) inductionHypothesis
  | run elements initial _ inductionHypothesis =>
      refine SpawnsAmong.isAdditive.append ?_ ?_
      · refine (Shell.logs_spawnsAmong_evaluate _ elements Progress.start initial).mono ?_
        intro spawned member
        exact ⟨elements, List.mem_cons_self, member⟩
      · refine inductionHypothesis.mono ?_
        rintro spawned ⟨others, member, inOthers⟩
        exact ⟨others, List.mem_cons_of_mem elements member, inOthers⟩

namespace Shell

theorem spawnsAmong_readLoop (shell : Shell state handle) (source : ReadSource) (initial : state) :
    SpawnsAmong (fun spawned => ∃ line ∈ source.input.lines, spawned ∈ commandsOfLine line)
      (shell.readLoop source initial).events := by
  have runs := shell.runsChains_loop source.isTerminal source.reads 0 initial
  rw [ReadSource.reads, filterMap_readsFrom] at runs
  refine runs.spawnsAmong.mono ?_
  rintro spawned ⟨elements, member, inElements⟩
  obtain ⟨line, inLines, inLine⟩ := List.mem_flatMap.1 member
  rw [chainsOfLine_eq] at inLine
  obtain ⟨chain, inChains, rfl⟩ := List.mem_map.1 inLine
  exact ⟨line, inLines, List.mem_flatMap.2 ⟨chain, inChains, mem_commandsOf inElements⟩⟩

end Shell

/-! ## Bytes of a line -/

/-- How the bytes of a line are shared out: the pieces of the line take them all, in order. The
pieces that are words are the words of the commands that the loop reads from the line, and each of
the others is a blank character or an operator. -/
structure SharesBytes (line : InputLine) : Prop where
  unbroken : line.IsUnbroken
  whole : line.content.pieces.flatMap Piece.bytes = Text.bytes line.content
  words : line.content.pieces.filterMap Piece.word? = wordsOfLine line.read
  word : ∀ piece ∈ line.content.pieces, ∀ word, piece.word? = some word →
    piece.bytes = Text.bytes word
  rest : ∀ piece ∈ line.content.pieces, piece.word? = none →
    (∃ character, (Symbol.char character).isBlank = true ∧
      piece.bytes = String.utf8EncodeChar character) ∨
      ∃ operator : Operator, piece.bytes = Text.bytes operator.literal

theorem sharesBytes {line : InputLine} (unbroken : line.IsUnbroken) : SharesBytes line where
  unbroken := unbroken
  whole := flatMap_bytes_pieces line.content
  words := by
    rw [filterMap_word?_pieces, wordsOfLine, wordsOfLine, commandsOfLine_read]
  word := by
    intro piece _ word isWord
    rw [Piece.bytes, Piece.text_eq_of_word? isWord]
  rest := by
    intro piece member noWord
    rcases eq_blank_or_operator_of_word?_none member noWord with
      ⟨character, blank, rfl⟩ | ⟨operator, rfl⟩
    · exact Or.inl ⟨character, blank, List.append_nil _⟩
    · exact Or.inr ⟨operator, rfl⟩

/-! ## Undecodable bytes -/

/-- Between `before` and `after`, a byte of the given lines is in a word of one of them. -/
def InWord (lines : List InputLine) (before : List UInt8) (byte : UInt8) (after : List UInt8) :
    Prop :=
  ∃ earlier line later first piece rest word front back,
    lines = earlier ++ line :: later ∧ line.content.pieces = first ++ piece :: rest ∧
      piece.word? = some word ∧ Text.bytes word = front ++ byte :: back ∧
      before = earlier.flatMap InputLine.bytes ++ (first.flatMap Piece.bytes ++ front) ∧
      after =
        back ++ (rest.flatMap Piece.bytes ++
          (Text.bytes line.ending.text ++ later.flatMap InputLine.bytes))

theorem inWord_of_stray {text earlier later : Text} {byte : UInt8} {isHigh : 0x80 ≤ byte}
    (place : text = earlier ++ .stray byte isHigh :: later) :
    InWord text.inputLines (Text.bytes earlier) byte (Text.bytes later) := by
  -- The place is followed from the text into a line, and from the line into a piece.
  obtain ⟨before, line, after, front, back, cut, inLine, rfl, rfl⟩ :=
    exists_place_of_flatMap ((Text.flatMap_whole_inputLines text).trans place)
  obtain ⟨behind, inContent, rfl⟩ := InputLine.exists_content_of_stray inLine
  obtain ⟨first, piece, rest, word, wordFront, wordBack, pieces, isWord, _, inWord, rfl, rfl⟩ :=
    exists_word_of_stray inContent
  refine
    ⟨before, line, after, first, piece, rest, word, Text.bytes wordFront, Text.bytes wordBack, cut,
      pieces, isWord, ?_, ?_, ?_⟩
  · rw [inWord, Text.bytes_append]
    rfl
  · rw [Text.bytes_append, InputLine.bytes_flatMap_whole, Text.bytes_append,
      Piece.bytes_flatMap_text]
  · rw [Text.bytes_append, Text.bytes_append, Text.bytes_append, Piece.bytes_flatMap_text,
      InputLine.bytes_flatMap_whole, List.append_assoc, List.append_assoc]

theorem inWord_of_isUndecodable {before after : List UInt8} {byte : UInt8}
    (undecodable : Utf8.IsUndecodable before byte after) :
    InWord (Text.ofBytes (before ++ byte :: after)).inputLines before byte after := by
  obtain ⟨isHigh, earlier, later, place, rfl, rfl⟩ := Text.exists_stray_of_isUndecodable undecodable
  exact inWord_of_stray place

/-! ## Bytes of an input -/

namespace CommandLine

end CommandLine

end CommandChain
