import InputMask.Field
import InputMask.Main
import InputMask.Proofs.CommandLine.Effects
import InputMask.Proofs.CommandLine.Pieces
import InputMask.Proofs.CommandLine.Piping
import InputMask.Proofs.Conformance.FirstViolation
import InputMask.Proofs.Conformance.Interchange
import InputMask.Proofs.Filling.Mirroring
import InputMask.Proofs.Filling.Prefixes
import InputMask.Proofs.Filling.Turns
import InputMask.Proofs.Pattern.CaseMarkers
import InputMask.Proofs.Pattern.Faults
import InputMask.Proofs.Pattern.Joining
import InputMask.Proofs.Pattern.SetReading
import InputMask.Proofs.Pattern.TokenReading
import InputMask.Proofs.Pattern.Writing
import InputMask.Proofs.Spec.Parts
import InputMask.Proofs.Spec.Rendering
