import StoreAccess.Number.IntLiteral

/-! Offsets from universal time, in seconds, and the ways to write them. -/

namespace StoreAccess

/-- How an offset from universal time is written. -/
inductive OffsetStyle where
  /-- Hours and minutes, as in `+0200`. -/
  | plain
  /-- Hours and minutes with a colon. -/
  | colon
  /-- Hours, minutes and seconds with colons. -/
  | seconds
  /-- Hours alone. -/
  | hours
  deriving DecidableEq, Repr

namespace OffsetStyle

/-- An offset in seconds in this style. -/
def write (style : OffsetStyle) (offset : Int) : List Char :=
  let sign := if offset < 0 then '-' else '+'
  let size := offset.natAbs
  let minutes := (size + 30) / 60
  match style with
  | plain => sign :: padded 2 (minutes / 60) ++ padded 2 (minutes % 60)
  | colon => sign :: padded 2 (minutes / 60) ++ ':' :: padded 2 (minutes % 60)
  | seconds =>
    sign :: padded 2 (size / 3600) ++ ':' :: padded 2 (size / 60 % 60) ++ ':' :: padded 2 (size % 60)
  | hours => sign :: padded 2 (size / 3600)

end OffsetStyle

end StoreAccess
