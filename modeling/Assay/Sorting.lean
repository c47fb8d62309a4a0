/-! # Sorting by runs

A stable sort for a relation that may be undefined on some pairs, and which items are compared
decides which pair shows that. Ascending and strictly descending runs are found where they stand,
short ones are filled up by binary insertion, and runs are merged in the order in which a nearly
balanced tree over the places of the items joins them. A merge goes on item by item until one side
has won several times in a row, and then looks for the next place by leaps.
-/

namespace Assay.Sorting

variable {α ε : Type} [Inhabited α]

/-- How often one side of a merge has to win in a row for leaps to be worthwhile. -/
def leastStreak : Nat := 7

/-- How many items go on in the order of the first two, from a place on. -/
def runLength (lt : α → α → Except ε Bool) (descending : Bool) (previous : α) :
    List α → Except ε Nat
  | [] => pure 0
  | v :: rest => do
    if (← lt v previous) == descending then
      pure ((← runLength lt descending v rest) + 1)
    else pure 0

/-- The run at the front in ascending order, and its length. -/
def firstRun (lt : α → α → Except ε Bool) : List α → Except ε (Array α)
  | v :: w :: rest => do
    let descending ← lt w v
    let n := (← runLength lt descending w rest) + 2
    let run := (v :: w :: rest).take n
    pure (if descending then run.reverse else run).toArray
  | vs => pure vs.toArray

/-- The first place between two bounds at which the test holds, found by halving. -/
def halve (test : Nat → Except ε Bool) : (steps low high : Nat) → Except ε Nat
  | 0, low, _ => pure low
  | steps + 1, low, high =>
    if low < high then do
      let middle := low + (high - low) / 2
      if ← test middle then halve test steps low middle
      else halve test steps (middle + 1) high
    else pure low

/-- Put an item behind those items of a sorted run that it is not less than. -/
def insertItem (lt : α → α → Except ε Bool) (sorted : Array α) (pivot : α) :
    Except ε (Array α) := do
  let place ← halve (fun i => lt pivot (sorted.getD i default)) (sorted.size + 1) 0 sorted.size
  pure ((sorted.toList.take place ++ pivot :: sorted.toList.drop place).toArray)

/-- Leap over ever wider gaps as long as the test holds: the last place where it held and the first
one beyond it that was tried, both at most `most`. -/
def leap (test : Nat → Except ε Bool) (most : Nat) : (steps last next : Nat) → Except ε (Nat × Nat)
  | 0, last, next => pure (last, min next most)
  | steps + 1, last, next =>
    if next < most then do
      if ← test next then leap test most steps next (2 * next + 1)
      else pure (last, next)
    else pure (last, min next most)

/-- The number of the items at the front for which the test `before` holds, looked for around
`hint`. Where the items are sorted, those are the ones to be put before a certain item. -/
def gallop (before : Nat → Except ε Bool) (n hint : Nat) : Except ε Nat := do
  let after (i : Nat) : Except ε Bool := do pure !(← before i)
  let (low, high) ←
    if ← before hint then do
      let (last, next) ← leap (fun i => before (hint + i)) (n - hint) n 0 1
      pure (hint + last + 1, hint + next)
    else do
      let (last, next) ← leap (fun i => after (hint - i)) (hint + 1) n 0 1
      pure (hint + 1 - next, hint - last)
  halve after n low high

def notGreater (lt : α → α → Except ε Bool) (v : α) (items : Array α) (start n hint : Nat) :
    Except ε Nat :=
  gallop (fun i => do pure !(← lt v (items.getD (start + i) default))) n hint

def less (lt : α → α → Except ε Bool) (v : α) (items : Array α) (start n hint : Nat) :
    Except ε Nat :=
  gallop (fun i => lt (items.getD (start + i) default) v) n hint

inductive Pace
  /-- Item by item, with how often each side has just won. -/
  | single (left right : Nat)
  | leaping

/-- A merge in progress: how much of both runs has been taken or is left, what has been merged, and
the streak that leaps need. -/
structure Progress (α : Type) where
  left : Nat
  right : Nat
  merged : List α
  streak : Nat

namespace Progress

/-- The streak while leaping, which lowers it. -/
def eased (p : Progress α) : Progress α := { p with streak := max 1 (p.streak - 1) }

/-- The streak when leaping begins or ends. -/
def raised (p : Progress α) : Progress α := { p with streak := p.streak + 1 }

end Progress

section Forward

/-! `left` and `right` count what has been taken from the front, and `merged` is in reverse. -/

variable (lt : α → α → Except ε Bool) (a b : Array α)

def Progress.takeLeft (p : Progress α) (n : Nat) : Progress α :=
  let taken := (a.extract p.left (p.left + n)).toList
  { p with left := p.left + n, merged := taken.reverse ++ p.merged }

def Progress.takeRight (p : Progress α) (n : Nat) : Progress α :=
  let taken := (b.extract p.right (p.right + n)).toList
  { p with right := p.right + n, merged := taken.reverse ++ p.merged }

/-- The last item of the left run goes last. -/
def Progress.isForwardDone (p : Progress α) : Bool := p.right == b.size || p.left + 1 ≥ a.size

/-- Two leaps forward; false when the runs are used up. The flag tells whether they were wide. -/
def leapForward (p : Progress α) : Except ε (Progress α × Option Bool) := do
  let p := p.eased
  let m ← notGreater lt (b.getD p.right default) a p.left (a.size - p.left) 0
  let p := p.takeLeft a m
  if m != 0 && p.isForwardDone a b then return (p, none)
  let p := p.takeRight b 1
  if p.isForwardDone a b then return (p, none)
  let n ← less lt (a.getD p.left default) b p.right (b.size - p.right) 0
  let p := p.takeRight b n
  if n != 0 && p.isForwardDone a b then return (p, none)
  let p := p.takeLeft a 1
  if p.isForwardDone a b then return (p, none)
  pure (p, some (m ≥ leastStreak || n ≥ leastStreak))

def forward : (fuel : Nat) → Pace → Progress α → Except ε (Progress α)
  | 0, _, p => pure p
  | fuel + 1, .single x y, p => do
    if ← lt (b.getD p.right default) (a.getD p.left default) then
      let p := p.takeRight b 1
      if p.isForwardDone a b then pure p
      else if y + 1 ≥ p.streak then forward fuel .leaping p.raised
      else forward fuel (.single 0 (y + 1)) p
    else
      let p := p.takeLeft a 1
      if p.isForwardDone a b then pure p
      else if x + 1 ≥ p.streak then forward fuel .leaping p.raised
      else forward fuel (.single (x + 1) 0) p
  | fuel + 1, .leaping, p => do
    match ← leapForward lt a b p with
    | (p, none) => pure p
    | (p, some true) => forward fuel .leaping p
    | (p, some false) => forward fuel (.single 0 0) p.raised

/-- Merge two runs of which the first item of the right one comes first. -/
def mergeForward (streak : Nat) : Except ε (Array α × Nat) := do
  let start : Progress α := (⟨0, 0, [], streak⟩ : Progress α).takeRight b 1
  let p ← if start.isForwardDone a b then pure start
    else forward lt a b (a.size + b.size) (.single 0 0) start
  let rest := (b.extract p.right b.size).toList ++ (a.extract p.left a.size).toList
  pure ((p.merged.reverse ++ rest).toArray, p.streak)

end Forward

section Backward

/-! `left` and `right` count what is left at the front, and `merged` holds the greatest items. -/

variable (lt : α → α → Except ε Bool) (a b : Array α)

def Progress.dropLeft (p : Progress α) (n : Nat) : Progress α :=
  { p with left := p.left - n, merged := (a.extract (p.left - n) p.left).toList ++ p.merged }

def Progress.dropRight (p : Progress α) (n : Nat) : Progress α :=
  { p with right := p.right - n, merged := (b.extract (p.right - n) p.right).toList ++ p.merged }

/-- The first item of the right run goes first. -/
def Progress.isBackwardDone (p : Progress α) : Bool := p.left == 0 || p.right ≤ 1

/-- Two leaps backward; nothing is told when the runs are used up. -/
def leapBackward (p : Progress α) : Except ε (Progress α × Option Bool) := do
  let p := p.eased
  let m := p.left - (← notGreater lt (b.getD (p.right - 1) default) a 0 p.left (p.left - 1))
  let p := p.dropLeft a m
  if m != 0 && p.isBackwardDone then return (p, none)
  let p := p.dropRight b 1
  if p.isBackwardDone then return (p, none)
  let n := p.right - (← less lt (a.getD (p.left - 1) default) b 0 p.right (p.right - 1))
  let p := p.dropRight b n
  if n != 0 && p.isBackwardDone then return (p, none)
  let p := p.dropLeft a 1
  if p.isBackwardDone then return (p, none)
  pure (p, some (m ≥ leastStreak || n ≥ leastStreak))

def backward : (fuel : Nat) → Pace → Progress α → Except ε (Progress α)
  | 0, _, p => pure p
  | fuel + 1, .single x y, p => do
    if ← lt (b.getD (p.right - 1) default) (a.getD (p.left - 1) default) then
      let p := p.dropLeft a 1
      if p.isBackwardDone then pure p
      else if x + 1 ≥ p.streak then backward fuel .leaping p.raised
      else backward fuel (.single (x + 1) 0) p
    else
      let p := p.dropRight b 1
      if p.isBackwardDone then pure p
      else if y + 1 ≥ p.streak then backward fuel .leaping p.raised
      else backward fuel (.single 0 (y + 1)) p
  | fuel + 1, .leaping, p => do
    match ← leapBackward lt a b p with
    | (p, none) => pure p
    | (p, some true) => backward fuel .leaping p
    | (p, some false) => backward fuel (.single 0 0) p.raised

/-- Merge two runs of which the last item of the left one comes last. -/
def mergeBackward (streak : Nat) : Except ε (Array α × Nat) := do
  let start : Progress α := (⟨a.size, b.size, [], streak⟩ : Progress α).dropLeft a 1
  let p ← if start.isBackwardDone then pure start
    else backward lt a b (a.size + b.size) (.single 0 0) start
  let rest := (b.extract 0 p.right).toList ++ (a.extract 0 p.left).toList
  pure ((rest ++ p.merged).toArray, p.streak)

end Backward

/-- Merge two neighbouring runs. What stands in its place already is left out, and of the rest the
longer run is merged from its far end. -/
def mergeRuns (lt : α → α → Except ε Bool) (streak : Nat) (a b : Array α) :
    Except ε (Array α × Nat) := do
  let k ← notGreater lt (b.getD 0 default) a 0 a.size 0
  if k == a.size then return (a ++ b, streak)
  let n ← less lt (a.getD (a.size - 1) default) b 0 b.size (b.size - 1)
  if n == 0 then return (a ++ b, streak)
  let left := a.extract k a.size
  let right := b.extract 0 n
  let (merged, streak) ←
    if left.size ≤ right.size then mergeForward lt left right streak
    else mergeBackward lt left right streak
  pure (a.extract 0 k ++ merged ++ b.extract n b.size, streak)

structure Run (α : Type) where
  start : Nat
  items : Array α
  depth : Nat

/-- The runs found so far, the last one first, and the streak for the next merge. -/
structure Runs (α : Type) where
  stack : List (Run α)
  streak : Nat

/-- The depth at which a balanced tree over `n` places separates the middles of two neighbouring
runs, given as twice the places of the middles. -/
def joinDepth (n : Nat) : (fuel a b : Nat) → Nat
  | 0, _, _ => 0
  | fuel + 1, a, b =>
    if a ≥ n then joinDepth n fuel (2 * (a - n)) (2 * (b - n)) + 1
    else if b ≥ n then 1
    else joinDepth n fuel (2 * a) (2 * b) + 1

def mergeLast (lt : α → α → Except ε Bool) (r : Runs α) : Except ε (Runs α) :=
  match r.stack with
  | b :: a :: rest => do
    let (items, streak) ← mergeRuns lt r.streak a.items b.items
    pure ⟨{ a with items } :: rest, streak⟩
  | _ => pure r

/-- Merge the last runs that are joined deeper than at `depth`. -/
def collapse (lt : α → α → Except ε Bool) (depth : Nat) : (fuel : Nat) → Runs α → Except ε (Runs α)
  | 0, r => pure r
  | fuel + 1, r =>
    match r.stack with
    | _ :: a :: _ => do
      if a.depth > depth then collapse lt depth fuel (← mergeLast lt r) else pure r
    | _ => pure r

def addRun (lt : α → α → Except ε Bool) (n : Nat) (items : Array α) (r : Runs α) :
    Except ε (Runs α) := do
  match r.stack with
  | [] => pure ⟨[⟨0, items, 0⟩], r.streak⟩
  | top :: _ =>
    let middle := 2 * top.start + top.items.size
    let depth := joinDepth n (n + 1) middle (middle + top.items.size + items.size)
    let r ← collapse lt depth r.stack.length r
    match r.stack with
    | [] => pure r
    | top :: rest =>
      pure ⟨⟨top.start + top.items.size, items, 0⟩ :: { top with depth } :: rest, r.streak⟩

def mergeAll (lt : α → α → Except ε Bool) : (fuel : Nat) → Runs α → Except ε (Array α)
  | 0, r => pure ((r.stack.head?.map Run.items).getD #[])
  | fuel + 1, r =>
    match r.stack with
    | c :: b :: a :: rest => do
      if a.items.size < c.items.size then
        let joined ← mergeLast lt ⟨b :: a :: rest, r.streak⟩
        mergeAll lt fuel ⟨c :: joined.stack, joined.streak⟩
      else mergeAll lt fuel (← mergeLast lt r)
    | _ :: _ :: _ => do mergeAll lt fuel (← mergeLast lt r)
    | [top] => pure top.items
    | [] => pure #[]

/-- The length that runs are filled up to: the leading six bits of `n`, one more when a bit is set
behind them. -/
def leastRun : (fuel n : Nat) → (odd : Bool) → Nat
  | 0, n, _ => n
  | fuel + 1, n, odd =>
    if n ≥ 64 then leastRun fuel (n / 2) (odd || n % 2 == 1)
    else if odd then n + 1
    else n

def findRuns (lt : α → α → Except ε Bool) (least n : Nat) :
    (fuel : Nat) → List α → Runs α → Except ε (Runs α)
  | 0, _, r => pure r
  | _ + 1, [], r => pure r
  | fuel + 1, vs, r => do
    let run ← firstRun lt vs
    let filler := (vs.take least).drop run.size
    let run ← filler.foldlM (insertItem lt) run
    findRuns lt least n fuel (vs.drop run.size) (← addRun lt n run r)

def sort (lt : α → α → Except ε Bool) (vs : List α) : Except ε (List α) := do
  let n := vs.length
  let runs ← findRuns lt (leastRun n n false) n n vs ⟨[], leastStreak⟩
  pure (← mergeAll lt n runs).toList

end Assay.Sorting
