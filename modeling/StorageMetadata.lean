import StorageMetadata.CrossOrigin.Parts
import StorageMetadata.Main
import StorageMetadata.Proofs.Access.Shape
import StorageMetadata.Proofs.Bucket.NormalForm
import StorageMetadata.Proofs.Bucket.RoundTrip
import StorageMetadata.Proofs.Builder.Account
import StorageMetadata.Proofs.Builder.Change
import StorageMetadata.Proofs.Command.Outcome
import StorageMetadata.Proofs.CrossOrigin.RoundTrip
import StorageMetadata.Proofs.Equality
import StorageMetadata.Proofs.Object.NormalForm
import StorageMetadata.Proofs.Object.RoundTrip
import StorageMetadata.Proofs.Time.Spelling
import StorageMetadata.Source.Directory
import StorageMetadata.Value.Distinct
import StorageMetadata.Proofs.Object.Failure
import StorageMetadata.Proofs.Command.Restatement
import StorageMetadata.Proofs.Bucket.Failure
import StorageMetadata.Proofs.Parts.Read
import StorageMetadata.Proofs.Parts.Missing
import StorageMetadata.Proofs.Parts.Obtained
import StorageMetadata.Proofs.Parts.Refusal
import StorageMetadata.Proofs.Defect.Object
import StorageMetadata.Proofs.Defect.Bucket
import StorageMetadata.Proofs.CrossOrigin.Composition
import StorageMetadata.Proofs.Endpoint
import StorageMetadata.Proofs.CrossOrigin.Method
import StorageMetadata.Proofs.Resource.Integer
import StorageMetadata.Proofs.Time.Order
import StorageMetadata.Proofs.Display.Size
import StorageMetadata.Proofs.Endpoint.Host
import StorageMetadata.Proofs.Source.LineEnd
import StorageMetadata.Proofs.Display.Carry
import StorageMetadata.Proofs.Number.Overflow
import StorageMetadata.Proofs.Command.Size
