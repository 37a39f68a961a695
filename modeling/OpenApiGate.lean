import OpenApiGate.Main
import OpenApiGate.Proofs.Fallible
import OpenApiGate.Proofs.Chains
import OpenApiGate.Proofs.Incompatibilities
import OpenApiGate.Proofs.Derailments
import OpenApiGate.Proofs.Loading
import OpenApiGate.Proofs.Decoding
import OpenApiGate.Proofs.LoadingFailures
import OpenApiGate.Proofs.Verdicts
import OpenApiGate.Proofs.Printing
import OpenApiGate.Proofs.ExitStatus
import OpenApiGate.Proofs.Linting
import OpenApiGate.Proofs.Banners
import OpenApiGate.Proofs.SettingsCache
import OpenApiGate.Proofs.Provenance
import OpenApiGate.Proofs.Orders
import OpenApiGate.Proofs.Overrides
import OpenApiGate.Proofs.Numerals
import OpenApiGate.Proofs.ReadingBack
import OpenApiGate.Proofs.Records
import OpenApiGate.Proofs.Escaping
import OpenApiGate.Proofs.LogIndependence
import OpenApiGate.Proofs.Pointers
import OpenApiGate.Proofs.Rounds
import OpenApiGate.Proofs.KeyOrder
import OpenApiGate.Proofs.CollectedFindings
import OpenApiGate.Proofs.Accounts
import OpenApiGate.Proofs.DistinctKeys
import OpenApiGate.Proofs.Locations
import OpenApiGate.Proofs.Partition
import OpenApiGate.Proofs.Transparency
import OpenApiGate.Proofs.Faithfulness
import OpenApiGate.Proofs.Spawning
import OpenApiGate.Proofs.Doubles
import OpenApiGate.Proofs.NearestDoubles
import OpenApiGate.Proofs.RoundedOperations
import OpenApiGate.Proofs.Kilobytes
import OpenApiGate.Proofs.SizeLimit
import OpenApiGate.Proofs.ReservedNames
import OpenApiGate.Proofs.Utf8Strings
import OpenApiGate.Proofs.Grammar
import OpenApiGate.Proofs.LineEnds
import OpenApiGate.Proofs.TokenReading
import OpenApiGate.Proofs.DocumentReading
import OpenApiGate.Proofs.NumberWords
import OpenApiGate.Proofs.AcceptedDocuments
