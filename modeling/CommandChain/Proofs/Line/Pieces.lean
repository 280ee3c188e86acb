import CommandChain.Proofs.Line.Chain
import CommandChain.Text.Utf8

/-!
# Pieces of a line

A line is cut into pieces, its blanks and its tokens, and nothing of it is lost or moved
(`flatMap_text_pieces`). The tokens that spell no operator are the words of the commands of the line,
in their order (`filterMap_word?_pieces`); what is left are blanks and operators
(`eq_blank_or_operator_of_word?_none`). A stray symbol is neither, so it always is in a word
(`exists_word_of_stray`).
-/

namespace CommandChain

/-- A piece of a line. -/
inductive Piece where
  | blank (symbol : Symbol)
  | token (text : Text)
  deriving DecidableEq

namespace Piece

/-- The stretch of the line that is the piece. -/
def text : Piece → Text
  | .blank symbol => [symbol]
  | .token text => text

/-- The bytes of the piece. -/
def bytes (piece : Piece) : List UInt8 :=
  Text.bytes piece.text

/-- The token that a piece is. -/
def token? : Piece → Option Text
  | .blank _ => none
  | .token text => some text

/-- The word that a piece is: a token that spells no operator. -/
def word? (piece : Piece) : Option Text :=
  piece.token?.filter fun token => (Operator.ofToken? token).isNone

theorem bytes_flatMap_text (pieces : List Piece) :
    Text.bytes (pieces.flatMap text) = pieces.flatMap bytes := by
  rw [Text.bytes, List.flatMap_assoc]
  rfl

theorem filterMap_word? (pieces : List Piece) :
    pieces.filterMap word? =
      (pieces.filterMap token?).filter fun token => (Operator.ofToken? token).isNone :=
  List.filter_filterMap.symm

theorem word?_token {text : Text} (spellsNone : Operator.ofToken? text = none) :
    (token text).word? = some text := by
  simp [word?, token?, spellsNone]

theorem text_eq_of_word? {piece : Piece} {word : Text} (isWord : piece.word? = some word) :
    piece.text = word := by
  obtain ⟨isToken, _⟩ := Option.filter_eq_some_iff.1 isWord
  cases piece with
  | blank symbol => cases isToken
  | token text => exact Option.some.inj isToken

end Piece

/-- What a symbol contributes as a boundary between pieces. -/
def Symbol.pieceBoundary (symbol : Symbol) : Option (List Piece) :=
  if symbol.isBlank then some [.blank symbol]
  else if symbol = semicolon then some [.token [semicolon]]
  else none

/-- The pieces of a line, in order. -/
def Text.pieces (line : Text) : List Piece :=
  splitRuns Symbol.pieceBoundary Piece.token line

/-! ## Nothing is lost -/

theorem eq_of_pieceBoundary {symbol : Symbol} {pieces : List Piece}
    (isBoundary : symbol.pieceBoundary = some pieces) :
    (symbol.isBlank = true ∧ pieces = [.blank symbol]) ∨
      (symbol = Symbol.semicolon ∧ pieces = [.token [Symbol.semicolon]]) := by
  unfold Symbol.pieceBoundary at isBoundary
  split at isBoundary
  case isTrue blank =>
      cases isBoundary
      exact Or.inl ⟨blank, rfl⟩
  case isFalse =>
      split at isBoundary
      case isTrue isSemicolon =>
          cases isBoundary
          exact Or.inr ⟨isSemicolon, rfl⟩
      case isFalse => cases isBoundary

theorem flatMap_text_pieces (line : Text) : line.pieces.flatMap Piece.text = line := by
  refine flatMap_splitRuns Symbol.pieceBoundary Piece.token Piece.text ?_ (fun _ => rfl) line
  intro cut pieces isBoundary
  rcases eq_of_pieceBoundary isBoundary with ⟨_, rfl⟩ | ⟨rfl, rfl⟩
  · rfl
  · rfl

theorem flatMap_bytes_pieces (line : Text) : line.pieces.flatMap Piece.bytes = Text.bytes line := by
  rw [← Piece.bytes_flatMap_text, flatMap_text_pieces]

theorem map_pieceBoundary (symbol : Symbol) :
    symbol.pieceBoundary.map (List.filterMap Piece.token?) = symbol.tokenBoundary := by
  unfold Symbol.pieceBoundary Symbol.tokenBoundary
  split
  · rfl
  · split <;> rfl

theorem filterMap_token?_pieces (line : Text) :
    line.pieces.filterMap Piece.token? = line.tokens := by
  rw [Text.pieces,
    filterMap_splitRuns Symbol.pieceBoundary Piece.token Piece.token? id (fun _ => rfl)]
  simp only [map_pieceBoundary]
  rfl

/-! ## Words of commands -/

/-- The commands of a line, in order. -/
def commandsOfLine (line : Text) : List Command :=
  (readChains line).flatMap fun chain => commandsOf chain.elements

/-- The words of the commands of a line, in order. -/
def wordsOfLine (line : Text) : List Text :=
  (commandsOfLine line).flatMap Command.words

/-- Semicolons are no commands, so elements and their chains have the same commands. -/
theorem flatMap_commandsOf_of_chainsOfElements {elements : List Element} {chains : List Chain}
    (cut : chainsOfElements elements = .ok chains) :
    (chains.flatMap fun chain => commandsOf chain.elements) = commandsOf elements := by
  obtain ⟨found, isCut, flatten, _⟩ := exists_chains elements
  rw [cut] at isCut
  cases isCut
  rw [← commandsOf_filter_ne_sequence, ← flatten, commandsOf, List.filterMap_flatMap]
  rfl

theorem flatMap_words_commandsOf {elements : List Element}
    (spellsNoOperator : ∀ command, Element.command command ∈ elements →
      ∀ word ∈ command.words, ∀ operator : Operator, word ≠ operator.literal) :
    (commandsOf elements).flatMap Command.words =
      (elements.flatMap Element.tokens).filter fun token => (Operator.ofToken? token).isNone := by
  induction elements with
  | nil => rfl
  | cons first rest inductionHypothesis =>
      have restSame := inductionHypothesis fun command member =>
        spellsNoOperator command (List.mem_cons_of_mem first member)
      rw [List.flatMap_cons, List.filter_append, ← restSame]
      cases first with
      | operator operator =>
          have noToken :
              (Element.operator operator).tokens.filter
                (fun token => (Operator.ofToken? token).isNone) = [] := by
            simp [Element.tokens]
          rw [noToken]
          rfl
      | command command =>
          have allWords : command.words.filter (fun word => (Operator.ofToken? word).isNone) =
              command.words := by
            rw [List.filter_eq_self]
            intro word member
            rw [Option.isNone_iff_eq_none, Operator.ofToken?_eq_none_iff]
            exact spellsNoOperator command List.mem_cons_self word member
          show command.words ++ _ = command.words.filter _ ++ _
          rw [allWords]
          rfl

theorem wordsOfLine_eq_filter (line : Text) :
    wordsOfLine line = line.tokens.filter fun token => (Operator.ofToken? token).isNone := by
  obtain ⟨elements, _, groups, reading⟩ := exists_elements_of_line line
  rw [parseLine_eq_readChains] at reading
  rw [wordsOfLine, commandsOfLine, flatMap_commandsOf_of_chainsOfElements reading.symm,
    flatMap_words_commandsOf groups.spellsNoOperator, groups.flatten]

/-- The pieces that are words are the words of the commands of the line. -/
theorem filterMap_word?_pieces (line : Text) :
    line.pieces.filterMap Piece.word? = wordsOfLine line := by
  rw [Piece.filterMap_word?, filterMap_token?_pieces, wordsOfLine_eq_filter]

/-! ## What is left -/

theorem isBlank_of_blank_mem_pieces {line : Text} {symbol : Symbol}
    (member : .blank symbol ∈ line.pieces) : symbol.isBlank = true := by
  rcases mem_splitRuns Symbol.pieceBoundary Piece.token member with
    ⟨run, _, _, _, isToken⟩ | ⟨cut, _, pieces, isBoundary, inPieces⟩
  · cases isToken
  · rcases eq_of_pieceBoundary isBoundary with ⟨blank, rfl⟩ | ⟨_, rfl⟩
    · cases List.mem_singleton.1 inPieces
      exact blank
    · cases List.mem_singleton.1 inPieces

theorem exists_char_of_isBlank {symbol : Symbol} (blank : symbol.isBlank = true) :
    ∃ character, symbol = .char character := by
  cases symbol with
  | char character => exact ⟨character, rfl⟩
  | stray byte isHigh => cases blank

/-- A piece that is no word is a blank character or an operator. -/
theorem eq_blank_or_operator_of_word?_none {line : Text} {piece : Piece}
    (member : piece ∈ line.pieces) (noWord : piece.word? = none) :
    (∃ character, (Symbol.char character).isBlank = true ∧ piece = .blank (.char character)) ∨
      ∃ operator : Operator, piece = .token operator.literal := by
  cases piece with
  | blank symbol =>
      have blank := isBlank_of_blank_mem_pieces member
      obtain ⟨character, rfl⟩ := exists_char_of_isBlank blank
      exact Or.inl ⟨character, blank, rfl⟩
  | token text =>
      cases spells : Operator.ofToken? text with
      | some operator =>
          exact Or.inr ⟨operator, congrArg Piece.token (Operator.ofToken?_eq_some_iff.1 spells)⟩
      | none =>
          rw [Piece.word?_token spells] at noWord
          cases noWord

theorem Operator.stray_not_mem_literal (operator : Operator) (byte : UInt8)
    (isHigh : 0x80 ≤ byte) : Symbol.stray byte isHigh ∉ operator.literal := by
  cases operator with
  | sequence => simp [Operator.literal]
  | connect connective =>
      cases connective <;> simp [Operator.literal, Connective.literal]

/-- A stray symbol is in a word, in its place. -/
theorem exists_word_of_stray {line before after : Text} {byte : UInt8} {isHigh : 0x80 ≤ byte}
    (place : line = before ++ .stray byte isHigh :: after) :
    ∃ earlier piece later word front back,
      line.pieces = earlier ++ piece :: later ∧ piece.word? = some word ∧ piece.text = word ∧
        word = front ++ .stray byte isHigh :: back ∧
        before = earlier.flatMap Piece.text ++ front ∧ after = back ++ later.flatMap Piece.text := by
  obtain ⟨earlier, piece, later, front, back, cut, content, isBefore, isAfter⟩ :=
    exists_place_of_flatMap ((flatMap_text_pieces line).trans place)
  have inPieces : piece ∈ line.pieces := by
    rw [cut]
    exact List.mem_append_right earlier List.mem_cons_self
  have inPiece : Symbol.stray byte isHigh ∈ piece.text := by
    rw [content]
    exact List.mem_append_right front List.mem_cons_self
  have isWord : piece.word? = some piece.text := by
    cases found : piece.word? with
    | some word => exact congrArg some (Piece.text_eq_of_word? found).symm
    | none =>
        rcases eq_blank_or_operator_of_word?_none inPieces found with
          ⟨character, _, rfl⟩ | ⟨operator, rfl⟩
        · cases List.mem_singleton.1 inPiece
        · exact absurd inPiece (operator.stray_not_mem_literal byte isHigh)
  exact ⟨earlier, piece, later, piece.text, front, back, cut, isWord, rfl, content, isBefore, isAfter⟩

-- The byte 0x85 alone is part of a word, while the character with that code separates words.
example :
    wordsOfLine [.char 'a', .stray 0x85 (by decide), .char '\x85', .char 'b'] =
      [[.char 'a', .stray 0x85 (by decide)], [.char 'b']] := by
  decide

end CommandChain
