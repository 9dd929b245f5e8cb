import FormulaDiagram.Main
import FormulaDiagram.Proofs.Grammar.FirstError
import FormulaDiagram.Proofs.Lexing.Iteration
import FormulaDiagram.Proofs.Lexing.Insertion
import FormulaDiagram.Proofs.Lexing.Trimming
import FormulaDiagram.Proofs.Places.Alike
import FormulaDiagram.Proofs.Places.Part
import FormulaDiagram.Proofs.Places.Diagnostics
import FormulaDiagram.Proofs.Places.Enclosing
import FormulaDiagram.Proofs.Places.Nesting
import FormulaDiagram.Proofs.Places.Heads
import FormulaDiagram.Proofs.Printing.RoundTrip
import FormulaDiagram.Proofs.Validation.Occurrences
import FormulaDiagram.Proofs.Validation.History
import FormulaDiagram.Proofs.Nodes.Reachable
import FormulaDiagram.Proofs.Nodes.Recursion
import FormulaDiagram.Proofs.Layout.Arena
import FormulaDiagram.Proofs.Layout.Recursion
import FormulaDiagram.Proofs.Layout.Preorder
import FormulaDiagram.Proofs.Layout.Placement
import FormulaDiagram.Proofs.Layout.Exact
import FormulaDiagram.Proofs.Layout.Spacing
import FormulaDiagram.Proofs.Layout.Planarity
import FormulaDiagram.Proofs.Numeric.Rounding
import FormulaDiagram.Proofs.Numeric.Magnitude
import FormulaDiagram.Proofs.Numeric.Precision
import FormulaDiagram.Proofs.Numeric.Order
import FormulaDiagram.Proofs.Layout.Finite
import FormulaDiagram.Proofs.Layout.Apart
import FormulaDiagram.Proofs.Layout.Downwards
import FormulaDiagram.Proofs.Drawing.Layers
import FormulaDiagram.Proofs.Drawing.Document
import FormulaDiagram.Proofs.Drawing.Labels
import FormulaDiagram.Proofs.Drawing.Faithful
import FormulaDiagram.Proofs.Drawing.Finite
import FormulaDiagram.Proofs.Drawing.Groups
import FormulaDiagram.Proofs.Drawing.Enclosure
import FormulaDiagram.Proofs.Command.Configuration
import FormulaDiagram.Proofs.Command.Delivery
import FormulaDiagram.Proofs.Command.Inputs
