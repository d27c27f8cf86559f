import DocStore.Store

namespace DocStore

-- A stream or a download is closed once, however often that is asked for, and the store
-- counts the closings.
structure ResultStream where
  rest : List Document
  isClosed : Bool := false

namespace ResultStream

def next (stream : ResultStream) : Except StoreError (Option Document) × ResultStream :=
  if stream.isClosed then (.error .cursorClosed, stream)
  else
    match stream.rest with
    | [] => (.ok none, stream)
    | d :: rest => (.ok (some d), { stream with rest })

def close (stream : ResultStream) (s : Store) : ResultStream × Store :=
  if stream.isClosed then (stream, s)
  else (⟨[], true⟩, { s with closedStreams := s.closedStreams + 1 })

-- Everything up to the end.
def drain (stream : ResultStream) : Except StoreError (List Document) × ResultStream :=
  if stream.isClosed then (.error .cursorClosed, stream)
  else (.ok stream.rest, { stream with rest := [] })

end ResultStream

structure Download where
  rest : List UInt8
  isClosed : Bool := false

-- Where bytes go: kept, or refused.
inductive ByteSink where
  | collect
  | broken
  deriving DecidableEq

-- Where bytes come from: at hand, or not to be read.
inductive ByteSource where
  | bytes (data : List UInt8)
  | broken
  deriving DecidableEq

-- What a copy has written to its sink, and the number of bytes that it reports.
structure CopyReport where
  bytes : List UInt8
  count : Nat
  deriving DecidableEq

def ByteSource.read : ByteSource → Except StoreError (List UInt8)
  | bytes data => .ok data
  | broken => .error .sourceBroken

namespace Download

def read (d : Download) (count : Nat) : Except StoreError (List UInt8) × Download :=
  if d.isClosed then (.error .downloadClosed, d)
  else (.ok (d.rest.take count), { d with rest := d.rest.drop count })

def close (d : Download) (s : Store) : Download × Store :=
  if d.isClosed then (d, s)
  else ({ d with isClosed := true }, { s with closedDownloads := s.closedDownloads + 1 })

def pieceSize : Nat := 8192

-- Copies piece by piece until nothing is left, and counts what it writes. A sink
-- that refuses is met by the first piece, so not when nothing is left.
def copyPieces (sink : ByteSink) : Nat → CopyReport → Download → Except StoreError CopyReport × Download
  | 0, report, d => (.ok report, d)
  | fuel + 1, report, d =>
    match d.read pieceSize with
    | (.error e, d) => (.error e, d)
    | (.ok piece, d) =>
      if piece.isEmpty then (.ok report, d)
      else
        match sink with
        | .broken => (.error .sinkBroken, d)
        | .collect => copyPieces sink fuel ⟨report.bytes ++ piece, report.count + piece.length⟩ d

-- Copies all that is left. It never takes more pieces than there are bytes left.
def copyTo (d : Download) (sink : ByteSink) : Except StoreError CopyReport × Download :=
  copyPieces sink (d.rest.length + 1) ⟨[], 0⟩ d

end Download

end DocStore
