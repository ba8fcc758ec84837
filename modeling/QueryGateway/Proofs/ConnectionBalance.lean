import QueryGateway.Proofs.SessionMoves

/-!
# The balance of connections

The connections of a pool that are out are those that a step has in hand and
those that are held.  Every move of a step keeps this balance, so in every
session that comes of its first step the connections out are the held ones.
-/

namespace QueryGateway

open List

/-- A pool whose counts of connections that are out, of its own generation and of earlier ones, are
those of a list. -/
structure Pool.Counts
    (pool : Pool)
    (number : Nat)
    (connections : List Connection) :
    Prop where
  out : pool.out = connections.count ⟨number, pool.generation⟩
  stale :
    pool.stale =
      connections.countP fun connection =>
        connection.pool = number && connection.generation < pool.generation

namespace Pool.Counts

variable
  {pool : Pool}
  {number : Nat}
  {connection : Connection}
  {connections : List Connection}

/-- The order of the connections does not matter to a count. -/
theorem perm
    {others : List Connection}
    (counts : pool.Counts number connections)
    (same : connections.Perm others) :
    pool.Counts number others :=
  ⟨counts.out.trans (same.count_eq _), counts.stale.trans (same.countP_eq _)⟩

/-- Connections of another pool do not count. -/
theorem cons_iff
    (other : connection.pool ≠ number) :
    pool.Counts number (connection :: connections) ↔ pool.Counts number connections := by
  have different : connection ≠ ⟨number, pool.generation⟩ := by
    rintro rfl
    exact other rfl
  have own :
      (connection :: connections).count ⟨number, pool.generation⟩ =
        connections.count ⟨number, pool.generation⟩ :=
    count_cons_of_ne different
  have earlier :
      ((connection :: connections).countP fun connection =>
          connection.pool = number && connection.generation < pool.generation) =
        connections.countP fun connection =>
          connection.pool = number && connection.generation < pool.generation :=
    countP_cons_of_neg (by simp [other])
  exact ⟨fun counts => ⟨counts.out.trans own, counts.stale.trans earlier⟩,
    fun counts => ⟨counts.out.trans own.symm, counts.stale.trans earlier.symm⟩⟩

/-- A fresh pool counts none of the connections that are out. -/
theorem fresh
    (source : DataSource)
    (unused : ∀ connection ∈ connections, connection.pool ≠ number) :
    (Pool.fresh source).Counts number connections := by
  induction connections with
  | nil =>
      exact ⟨rfl, rfl⟩
  | cons connection connections inductionHypothesis =>
      rw [cons_iff (unused connection (.head _))]
      exact inductionHypothesis fun connection listed => unused connection (.tail _ listed)

/-- A pool that lends a connection counts one more. -/
theorem lent
    (counts : pool.Counts number connections)
    (idle : Nat → Nat) :
    (pool.lent idle).Counts number (⟨number, pool.generation⟩ :: connections) := by
  constructor
  · change pool.out + 1 = _
    rw [counts.out, Pool.lent, count_cons_self]
  · change pool.stale = _
    rw [counts.stale, countP_cons_of_neg (by simp [Pool.lent])]
    rfl

/-- A pool that gets a connection back counts one less. -/
theorem regained
    (counts : pool.Counts number (⟨number, pool.generation⟩ :: connections))
    (idle : Nat → Nat) :
    (pool.regained idle).Counts number connections := by
  obtain ⟨out, stale⟩ := counts
  rw [count_cons_self] at out
  rw [countP_cons_of_neg (by simp)] at stale
  constructor
  · change pool.out - 1 = _
    rw [out]
    rfl
  · exact stale

/-- A connection of an earlier generation is not counted again. -/
theorem released
    {generation : Nat}
    (counts : pool.Counts number (⟨number, generation⟩ :: connections))
    (earlier : generation < pool.generation) :
    pool.released.Counts number connections := by
  obtain ⟨out, stale⟩ := counts
  have different : (⟨number, generation⟩ : Connection) ≠ ⟨number, pool.generation⟩ := by
    intro same
    exact Nat.ne_of_lt earlier (congrArg Connection.generation same)
  rw [count_cons_of_ne different] at out
  rw [countP_cons_of_pos (by simpa using earlier)] at stale
  constructor
  · exact out
  · change pool.stale - 1 = _
    rw [stale]
    rfl

section

variable
  (counts : pool.Counts number connections)
  (known :
    ∀ connection ∈ connections,
      connection.pool = number → connection.generation ≤ pool.generation)

include counts known

/-- All connections of a pool are out if none is of a later generation. -/
theorem checkedOut_eq :
    pool.checkedOut = connections.countP fun connection => connection.pool = number := by
  rw [Pool.checkedOut, counts.out, counts.stale]
  clear counts
  induction connections with
  | nil =>
      rfl
  | cons connection connections inductionHypothesis =>
      have rest := inductionHypothesis fun connection listed => known connection (.tail _ listed)
      have first := known connection (.head _)
      obtain ⟨other, generation⟩ := connection
      rw [count_cons, countP_cons, countP_cons, ← rest]
      by_cases own : other = number
      · rcases Nat.lt_or_eq_of_le (first own) with earlier | current
        · have different : generation ≠ pool.generation := Nat.ne_of_lt earlier
          simp only at earlier
          simp [own, earlier, different]
          omega
        · simp only at current
          simp [own, current]
          omega
      · simp [own]

/-- A renewed pool counts the connections that are out as earlier ones. -/
theorem renewed :
    pool.renewed.Counts number connections := by
  have total := checkedOut_eq counts known
  constructor
  · change 0 = _
    symm
    refine count_eq_zero_of_not_mem fun listed => ?_
    exact Nat.not_succ_le_self _ (known _ listed rfl)
  · change pool.stale + pool.out = _
    rw [Nat.add_comm, ← Pool.checkedOut, total]
    refine countP_congr fun connection listed => ?_
    have bound := known connection listed
    rw [Bool.and_eq_true, decide_eq_true_iff, decide_eq_true_iff]
    exact ⟨fun own => ⟨own, Nat.lt_succ_of_le (bound own)⟩, And.left⟩

end

end Pool.Counts

/-- Pools whose counts are those of a list of connections, none of which is of a pool that was not
built or of a generation that is still to come. -/
structure Balanced
    (pools : List Pool)
    (connections : List Connection) :
    Prop where
  counts :
    ∀ {number : Nat} {pool : Pool},
      pools[number]? = some pool → pool.Counts number connections
  known :
    ∀ {connection : Connection},
      connection ∈ connections →
        ∃ pool,
          pools[connection.pool]? = some pool ∧ connection.generation ≤ pool.generation

namespace Balanced

variable
  {pools : List Pool}
  {connections : List Connection}
  {number : Nat}
  {pool : Pool}

/-- The order of the connections does not matter to their balance. -/
theorem perm
    {others : List Connection}
    (balanced : Balanced pools connections)
    (same : connections.Perm others) :
    Balanced pools others :=
  ⟨fun found => (balanced.counts found).perm same,
    fun listed => balanced.known (same.mem_iff.mpr listed)⟩

/-- A fresh pool keeps the balance. -/
theorem append
    (balanced : Balanced pools connections)
    (source : DataSource) :
    Balanced (pools ++ [.fresh source]) connections := by
  have inside {connection : Connection} (listed : connection ∈ connections) :
      connection.pool < pools.length := by
    obtain ⟨pool, found, _⟩ := balanced.known listed
    exact (List.getElem?_eq_some_iff.mp found).1
  constructor
  · intro number pool found
    by_cases earlier : number < pools.length
    · rw [getElem?_append_left earlier] at found
      exact balanced.counts found
    · rw [getElem?_append_right (Nat.not_lt.mp earlier), List.getElem?_singleton] at found
      split at found <;> cases found
      exact .fresh source fun connection listed own =>
        earlier (own ▸ inside listed)
  · intro connection listed
    rw [getElem?_append_left (inside listed)]
    exact balanced.known listed

/-- A change to one pool keeps the balance if that pool's counts are right after it, and it changes
the use of no other pool. -/
theorem modify
    {others : List Connection}
    {change : Pool → Pool}
    (balanced : Balanced pools connections)
    (found : pools[number]? = some pool)
    (grows : pool.generation ≤ (change pool).generation)
    (counts : (change pool).Counts number others)
    (elsewhere :
      ∀ {other : Nat} {pool : Pool},
        other ≠ number → pool.Counts other connections → pool.Counts other others)
    (known :
      ∀ {connection : Connection},
        connection ∈ others →
          connection ∈ connections ∨ connection = ⟨number, pool.generation⟩) :
    Balanced (pools.modify number change) others := by
  constructor
  · intro other changed foundChanged
    rw [getElem?_modify] at foundChanged
    obtain ⟨before, foundBefore, shape⟩ := Option.map_eq_some_iff.mp foundChanged
    by_cases same : number = other
    · subst same
      rw [found] at foundBefore
      cases foundBefore
      rw [if_pos rfl] at shape
      rwa [← shape]
    · rw [if_neg same] at shape
      rw [← shape]
      exact elsewhere (Ne.symm same) (balanced.counts foundBefore)
  · intro connection listed
    have before :
        ∃ pool,
          pools[connection.pool]? = some pool ∧ connection.generation ≤ pool.generation := by
      rcases known listed with earlier | rfl
      · exact balanced.known earlier
      · exact ⟨pool, found, Nat.le_refl _⟩
    obtain ⟨own, foundOwn, bound⟩ := before
    rw [getElem?_modify, foundOwn]
    by_cases same : number = connection.pool
    · rw [← same, found] at foundOwn
      cases foundOwn
      exact ⟨change pool, by simp [same], Nat.le_trans bound grows⟩
    · exact ⟨own, by simp [same], bound⟩

/-- No connection is of a later generation than its pool. -/
theorem generation_le
    (balanced : Balanced pools connections)
    (found : pools[number]? = some pool) :
    ∀ connection ∈ connections,
      connection.pool = number → connection.generation ≤ pool.generation := by
  rintro connection listed rfl
  obtain ⟨own, foundOwn, bound⟩ := balanced.known listed
  rw [found] at foundOwn
  cases foundOwn
  exact bound

/-- Renewing a pool keeps the balance. -/
theorem renew
    (balanced : Balanced pools connections)
    (found : pools[number]? = some pool) :
    Balanced (pools.modify number Pool.renewed) connections :=
  balanced.modify found (Nat.le_succ _)
    ((balanced.counts found).renewed (balanced.generation_le found)) (fun _ counts => counts) .inl

/-- Lending a connection keeps the balance. -/
theorem lend
    (balanced : Balanced pools connections)
    (found : pools[number]? = some pool)
    (idle : Nat → Nat) :
    Balanced (pools.modify number (Pool.lent idle))
      (⟨number, pool.generation⟩ :: connections) :=
  balanced.modify found (Nat.le_refl _) ((balanced.counts found).lent idle)
    (fun other counts => (Pool.Counts.cons_iff other.symm).mpr counts)
    fun listed => (mem_cons.mp listed).symm

section

variable
  {connection : Connection}
  (balanced : Balanced pools (connection :: connections))
  (found : pools[connection.pool]? = some pool)

include balanced found

/-- Getting a current connection back keeps the balance. -/
theorem regain
    (current : ¬ connection.generation < pool.generation)
    (idle : Nat → Nat) :
    Balanced (pools.modify connection.pool (Pool.regained idle)) connections := by
  have bound := balanced.generation_le found connection (.head _) rfl
  have shape : connection = ⟨connection.pool, pool.generation⟩ := by
    rw [← Nat.le_antisymm bound (Nat.not_lt.mp current)]
  have counts := balanced.counts found
  rw [shape] at counts
  exact balanced.modify found (Nat.le_refl _) (counts.regained idle)
    (fun other counts => (Pool.Counts.cons_iff other.symm).mp counts)
    fun listed => .inl (.tail _ listed)

/-- Closing a connection of an earlier generation keeps the balance. -/
theorem release
    (earlier : connection.generation < pool.generation) :
    Balanced (pools.modify connection.pool Pool.released) connections :=
  balanced.modify found (Nat.le_refl _) ((balanced.counts found).released earlier)
    (fun other counts => (Pool.Counts.cons_iff other.symm).mp counts)
    fun listed => .inl (.tail _ listed)

end

end Balanced

/-! ## Sessions -/

/-- The connections that a session holds under some name. -/
def Session.heldConnections (session : Session) : List Connection :=
  session.held.map Prod.snd

/-- Letting go of a name lets go of its connection only. -/
theorem perm_eraseP_of_lookup
    {held : List (String × Connection)}
    {name : String}
    {connection : Connection}
    (found : held.lookup name = some connection) :
    (held.map Prod.snd).Perm
      (connection :: (held.eraseP fun entry => entry.1 == name).map Prod.snd) := by
  obtain ⟨earlier, later, rfl, unlike⟩ := lookup_eq_some_iff.mp found
  have others : ∀ entry ∈ earlier, ¬ (entry.1 == name) = true := by
    intro entry listed same
    have different := unlike entry listed
    rw [eq_of_beq same] at different
    simp at different
  rw [eraseP_append_right _ others, eraseP_cons_of_pos (by simp), map_append, map_append, map_cons]
  exact perm_middle

namespace Run

/-- Every state that can be reached from a balanced one is balanced. -/
theorem Reached.balanced
    {start : Session}
    {run : Run}
    {hand : List Connection}
    {own : List Nat}
    (begun : Balanced start.pools start.heldConnections)
    (reached : Reached start run hand own) :
    Balanced run.session.pools (hand ++ run.session.heldConnections) := by
  induction reached with
  | begun server =>
      exact begun
  | noted plain reached inductionHypothesis =>
      exact inductionHypothesis
  | asked source reached inductionHypothesis =>
      exact inductionHypothesis
  | opened pool reached inductionHypothesis =>
      exact inductionHypothesis
  | built source reached inductionHypothesis =>
      exact inductionHypothesis.append source
  | @added run hand own source absent reached inductionHypothesis =>
      exact inductionHypothesis.append source
  | removed registered reached inductionHypothesis =>
      exact inductionHypothesis
  | cleared reached inductionHypothesis =>
      exact inductionHypothesis
  | @disposed run hand own number reached inductionHypothesis =>
      rw [dispose]
      cases found : run.session.pools[number]? with
      | none =>
          exact inductionHypothesis
      | some pool =>
          exact inductionHypothesis.renew found
  | taken offered found idle reached inductionHypothesis =>
      exact inductionHypothesis.lend found idle
  | @givenBack run hand own connection reached inductionHypothesis =>
      obtain ⟨pool, found, _⟩ := inductionHypothesis.known (.head _)
      rw [giveBack_eq found]
      split
      · rename_i earlier
        exact inductionHypothesis.release found earlier
      · rename_i current
        split <;> exact inductionHypothesis.regain found current _
  | kept name reached inductionHypothesis =>
      exact inductionHypothesis.perm perm_middle.symm
  | letGo held reached inductionHypothesis =>
      exact inductionHypothesis.perm
        (((perm_eraseP_of_lookup held).append_left _).trans perm_middle)

end Run

namespace Session

/-- How many connections of a pool are out, of whatever generation. -/
def checkedOut (session : Session) (number : Nat) : Nat :=
  (session.pools[number]?.map Pool.checkedOut).getD 0

/-- In a balanced session a pool has as many connections out as there are of it. -/
theorem checkedOut_eq_of_balanced
    {session : Session}
    {connections : List Connection}
    (balanced : Balanced session.pools connections)
    (number : Nat) :
    session.checkedOut number =
      connections.countP fun connection => connection.pool = number := by
  rw [checkedOut]
  cases found : session.pools[number]? with
  | none =>
      have unused : ∀ connection ∈ connections, ¬ connection.pool = number := by
        rintro connection listed rfl
        obtain ⟨pool, known, _⟩ := balanced.known listed
        rw [found] at known
        cases known
      symm
      simpa using unused
  | some pool =>
      exact (balanced.counts found).checkedOut_eq (balanced.generation_le found)

variable
  (settings : EngineSettings)

/-- In every session that comes of its first step the connections that are out are the held
ones. -/
theorem balanced_after
    (backend : Backend)
    (bounds : PoolSettings)
    (turns : List Turn) :
    Balanced ((start backend bounds).after settings turns).pools
      ((start backend bounds).after settings turns).heldConnections := by
  have kept
      {session : Session}
      (balanced : Balanced session.pools session.heldConnections) :
      Balanced (session.after settings turns).pools
        (session.after settings turns).heldConnections := by
    induction turns generalizing session with
    | nil =>
        exact balanced
    | cons turn turns inductionHypothesis =>
        obtain ⟨_, reached⟩ := Run.reached_step session settings turn.server turn.step
        have stepped := reached.balanced balanced
        exact inductionHypothesis stepped
  refine kept ⟨fun found => ?_, fun listed => absurd listed not_mem_nil⟩
  cases found

end Session

end QueryGateway
