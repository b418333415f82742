import Larder.Importer.Progress
import Larder.Logger
import Larder.Main
import Larder.Proofs.Importer.Frame
import Larder.Proofs.Importer.Chain
import Larder.Proofs.Importer.Fleet
import Larder.Proofs.Importer.Chronicle
import Larder.Proofs.Importer.Slots
import Larder.Proofs.Importer.SingleFlight
import Larder.Proofs.Importer.OnceOnly
import Larder.Proofs.Importer.Desk
import Larder.Proofs.Importer.Delivery
import Larder.Proofs.Importer.Versions
import Larder.Proofs.Importer.Losses
import Larder.Proofs.Importer.Without
import Larder.Proofs.Importer.Line
import Larder.Proofs.Importer.Later
import Larder.Proofs.Importer.Meaning
import Larder.Proofs.Path.Names
import Larder.Proofs.Registry
import Larder.Proofs.Discovery.Scan
import Larder.Proofs.Discovery.Search
import Larder.Proofs.Importer.Errand
import Larder.Proofs.Importer.Seeds
import Larder.Proofs.Importer.Informed
import Larder.Proofs.Importer.Deferral
import Larder.Proofs.Importer.Routing
import Larder.Proofs.Importer.Pledge
import Larder.Proofs.Importer.Attribution
import Larder.Proofs.Importer.Preload
import Larder.Proofs.Importer.Inside
import Larder.Proofs.Importer.Apart
import Larder.Proofs.Discovery.Confinement
import Larder.Proofs.Importer.Traceless
import Larder.Proofs.Importer.Confinement
import Larder.Proofs.Importer.Parts
import Larder.Proofs.Importer.Independence
import Larder.Proofs.Specifier.Grammar
import Larder.Proofs.Discovery.Exact
import Larder.Proofs.Discovery.FirstMatch
import Larder.Proofs.Importer.Nested
import Larder.Proofs.Specifier.Unambiguous
import Larder.Proofs.Path.Lexical
import Larder.Proofs.Path.Within
import Larder.Proofs.Schema
import Larder.Proofs.Config
import Larder.Proofs.Config.Written
import Larder.Proofs.Importer.Loading
import Larder.Proofs.Importer.Ending
import Larder.Proofs.Importer.AtOnce
import Larder.Proofs.Command.Reference
import Larder.Proofs.Command.Standing
import Larder.Proofs.Command.Resolve
import Larder.Proofs.Command.PantryOptions
import Larder.Proofs.Json.Reader
import Larder.Proofs.Command.Counting
import Larder.Proofs.Command.Framing
import Larder.Proofs.Emission

/-!
# Larder

A resolver of imports of ingredients that pantries publish, with its command line, and what is
proved of it.

* `Larder.Path`, `Larder.Text`, `Larder.Number`, `Larder.Registry`, `Larder.Value`: paths, texts,
  numbers, ordered tables and host values.
* `Larder.Schema`, `Larder.Config`, `Larder.Pantry`: configurations and the pantries they describe.
* `Larder.Tree`, `Larder.Discovery`: directory trees, and how pantries are found in them.
* `Larder.Specifier`, `Larder.Emission`, `Larder.Outcome`: what imports cite, what compilations
  have been given, and what imports come to.
* `Larder.Importer`: the importer as a state with a queue of jobs, and what happens to it.
* `Larder.Command`, `Larder.Console`, `Larder.Main`: the commands, and what they print.
* `Larder.Proofs`: the theory, in modules named after what they are about.
-/
