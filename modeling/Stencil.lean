import Stencil.Main
import Stencil.Proofs.Bindings
import Stencil.Proofs.Bracket.Compiling
import Stencil.Proofs.InputFiles
import Stencil.Proofs.Json.Grammar
import Stencil.Proofs.Json.RoundTrip
import Stencil.Proofs.Markup
import Stencil.Proofs.Merging
import Stencil.Proofs.Passing
import Stencil.Proofs.PluginLists
import Stencil.Proofs.Settings
import Stencil.Proofs.Surroundings
import Stencil.Proofs.Transparency
import Stencil.Proofs.Verbosity
