import DatamodelTypes.Main
import DatamodelTypes.Options.Reader
import DatamodelTypes.Proofs.Cli.Arguments
import DatamodelTypes.Proofs.Cli.Log
import DatamodelTypes.Proofs.Cli.Run
import DatamodelTypes.Proofs.Conversion.Erasure
import DatamodelTypes.Proofs.Conversion.Failure
import DatamodelTypes.Proofs.Conversion.Imports
import DatamodelTypes.Proofs.Conversion.Indentation
import DatamodelTypes.Proofs.Conversion.Layout
import DatamodelTypes.Proofs.Conversion.Members
import DatamodelTypes.Proofs.Conversion.Outline
import DatamodelTypes.Proofs.Conversion.Relations
import DatamodelTypes.Proofs.Conversion.Sections
import DatamodelTypes.Proofs.Datamodel.Editing
import DatamodelTypes.Proofs.Datamodel.Encoding
import DatamodelTypes.Proofs.Datamodel.Equivalence
import DatamodelTypes.Proofs.Datamodel.Extent
import DatamodelTypes.Proofs.Datamodel.FirstFault
import DatamodelTypes.Proofs.Datamodel.Marking
import DatamodelTypes.Proofs.Datamodel.Parts
import DatamodelTypes.Proofs.Datamodel.Unread
import DatamodelTypes.Proofs.Json.Equivalence
import DatamodelTypes.Proofs.Options.Acceptance
import DatamodelTypes.Proofs.Page.ImportBlock
import DatamodelTypes.Proofs.Cli.Setting
