/-!
# What programs write

A program writes to two channels. A channel may be a file that several programs share, so a write
says where its bytes go. The main statement is that writes which only go on where the channel stands
leave what was written, in order.
-/

namespace CommandChain

/-- A stream that a program writes to. -/
inductive Channel where
  | output
  | errors
  deriving DecidableEq

/-- Where bytes go in the file of a channel. -/
inductive Placement where
  /-- where the channel stands, which moves on -/
  | onwards
  | atOffset (offset : Nat)
  | atEnd
  /-- to the start of the file, which is emptied before -/
  | afresh
  deriving DecidableEq

/-- Bytes that a program wrote to one channel at one time. -/
structure Write where
  channel : Channel
  bytes : List UInt8
  placement : Placement := .onwards
  deriving DecidableEq

/-- A file with bytes put into it at an offset. A gap before them is filled with zeros. -/
def splice (content : List UInt8) (offset : Nat) (bytes : List UInt8) : List UInt8 :=
  if bytes = [] then content
  else
    content.take offset ++ List.replicate (offset - content.length) 0 ++ bytes ++
      content.drop (offset + bytes.length)

/-- Bytes that are put to the end of a file are appended. -/
theorem splice_length (content bytes : List UInt8) :
    splice content content.length bytes = content ++ bytes := by
  unfold splice
  split
  next isEmpty => simp [isEmpty]
  next => simp

/-- The file of a channel: its bytes, and where the channel stands. -/
structure ChannelFile where
  content : List UInt8 := []
  position : Nat := 0
  deriving DecidableEq

namespace ChannelFile

/-- The file after a write. -/
def after (file : ChannelFile) (write : Write) : ChannelFile :=
  match write.placement with
  | .onwards =>
      { content := splice file.content file.position write.bytes
        position := file.position + write.bytes.length }
  | .atOffset offset => { file with content := splice file.content offset write.bytes }
  | .atEnd => { file with content := file.content ++ write.bytes }
  | .afresh => { file with content := write.bytes }

/-- Writes that go on where the channel stands append their bytes. -/
theorem foldl_after_onwards (writes : List Write) (file : ChannelFile)
    (isAtEnd : file.position = file.content.length)
    (goOn : ∀ write ∈ writes, write.placement = .onwards) :
    writes.foldl after file =
      { content := file.content ++ writes.flatMap Write.bytes
        position := (file.content ++ writes.flatMap Write.bytes).length } := by
  induction writes generalizing file with
  | nil => simp [← isAtEnd]
  | cons write rest inductionHypothesis =>
      have placement := goOn write (by simp)
      have first : file.after write =
          { content := file.content ++ write.bytes
            position := (file.content ++ write.bytes).length } := by
        simp [after, placement, isAtEnd, splice_length]
      rw [List.foldl_cons, first,
        inductionHypothesis _ rfl fun later isLater => goOn later (by simp [isLater])]
      simp

end ChannelFile

namespace Write

/-- A write goes on where its channel stands. -/
def goesOn (write : Write) : Bool :=
  write.placement == .onwards

/-- What writes leave in the file of a channel, which is empty before. Where all of them go on, that
is what they wrote. -/
def contentOf (channel : Channel) (writes : List Write) : List UInt8 :=
  let own := writes.filter fun write => write.channel == channel
  if own.all goesOn then own.flatMap bytes else (own.foldl ChannelFile.after {}).content

/-- Whether or not all writes go on, they leave what they leave one after the other. -/
theorem contentOf_eq_foldl (channel : Channel) (writes : List Write) :
    contentOf channel writes =
      ((writes.filter fun write => write.channel == channel).foldl ChannelFile.after {}).content
        := by
  unfold contentOf
  dsimp only
  split
  next allGoOn =>
    have goOn : ∀ write ∈ writes.filter fun write => write.channel == channel,
        write.placement = .onwards := by
      intro write isOwn
      simpa [goesOn] using List.all_eq_true.1 allGoOn write isOwn
    rw [ChannelFile.foldl_after_onwards _ {} rfl goOn]
    simp
  next => rfl

end Write

end CommandChain
