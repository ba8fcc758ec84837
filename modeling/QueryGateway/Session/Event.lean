import QueryGateway.Source.Basic

/-!
# Events of a session

What happens between a session and the servers, in order.  Some events show in
the log; handing a connection out, taking it back and disposing of a pool leave
no line there.
-/

namespace QueryGateway

/-- An event of a session.  A pool is being built whenever one is asked for, whether or not it can
be; pools are numbered in the order in which they were built. -/
inductive Event where
  | building (source : SourceId)
  | opening (source : SourceId)
  | closing (source : SourceId)
  | executing (statement : String)
  | fetching (count : Int)
  | listingViews (scope : String)
  | listingTables (scope : String)
  | listingColumns (scope table : String)
  | checkedOut (pool : Nat)
  | returned (pool : Nat)
  | disposed (pool : Nat)
  deriving Repr, DecidableEq

/-- The line of an event in the log.  A number that is too long to be written leaves no line. -/
def Event.line? : Event → Option String
  | .building source => if source.isWritable then some ("engine " ++ source.shown) else none
  | .opening source => some ("connect " ++ source.shown)
  | .closing source => some ("close " ++ source.shown)
  | .executing statement => some ("execute " ++ statement)
  | .fetching count =>
      if Numeral.isWritable count then some ("fetchmany " ++ Numeral.ofInt count) else none
  | .listingViews scope => some ("views " ++ scope)
  | .listingTables scope => some ("tables " ++ scope)
  | .listingColumns scope table => some ("columns " ++ scope ++ "." ++ table)
  | .checkedOut _ | .returned _ | .disposed _ => none

end QueryGateway
