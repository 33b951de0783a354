import ModelGateway.Discovery.Cluster
import ModelGateway.Discovery.Pass
import ModelGateway.Gateway.Metrics
import ModelGateway.Main
import ModelGateway.Settings.Write
import ModelGateway.Proofs.Registry.Index
import ModelGateway.Proofs.Registry.Sound
import ModelGateway.Proofs.Registry.Agreement
import ModelGateway.Proofs.Fanout.Attempt
import ModelGateway.Proofs.Fanout.Sequence
import ModelGateway.Proofs.Fanout.Race
import ModelGateway.Proofs.Text.Pieces
import ModelGateway.Proofs.Url.Path
import ModelGateway.Proofs.Endpoint.CallUrl
import ModelGateway.Proofs.Discovery.Standing
import ModelGateway.Proofs.Endpoint.Identity
import ModelGateway.Proofs.Registry.Lookup
import ModelGateway.Proofs.Discovery.Commit
import ModelGateway.Proofs.Discovery.Survey
import ModelGateway.Proofs.Discovery.Run
import ModelGateway.Proofs.Discovery.Registered
import ModelGateway.Proofs.Fanout.Independence
import ModelGateway.Proofs.Fanout.Outbound
import ModelGateway.Proofs.Credential.Gate
import ModelGateway.Proofs.Gateway.Admission
import ModelGateway.Proofs.Registry.Replacement
import ModelGateway.Proofs.Registry.Order
import ModelGateway.Proofs.Registry.Instances
import ModelGateway.Proofs.Discovery.Coexistence
import ModelGateway.Proofs.Text.Base64
import ModelGateway.Proofs.Credential.Token
import ModelGateway.Proofs.Text.Digits
import ModelGateway.Proofs.Url.Ip
import ModelGateway.Proofs.Url.Host
import ModelGateway.Proofs.Url.Reading
import ModelGateway.Proofs.Endpoint.Addressing
import ModelGateway.Proofs.Credential.Issue
import ModelGateway.Proofs.Discovery.AnyOrder
import ModelGateway.Proofs.Gateway.Model
import ModelGateway.Proofs.Json.Decode
import ModelGateway.Proofs.Json.Spelling
import ModelGateway.Proofs.Settings.RoundTrip
import ModelGateway.Proofs.Fanout.Balance
import ModelGateway.Proofs.Registry.Newcomers
import ModelGateway.Proofs.Gateway.Stages
import ModelGateway.Proofs.Discovery.Probing
import ModelGateway.Proofs.Crypto.Aes
import ModelGateway.Proofs.Crypto.Field
import ModelGateway.Proofs.Crypto.Tag
import ModelGateway.Proofs.Credential.Corruption
import ModelGateway.Proofs.Url.Decode
import ModelGateway.Proofs.Endpoint.CallParts
import ModelGateway.Proofs.Registry.Loading
import ModelGateway.Proofs.Url.Form
import ModelGateway.Proofs.Discovery.PodListing
import ModelGateway.Proofs.Endpoint.ModelNames
import ModelGateway.Proofs.Endpoint.Port
import ModelGateway.Proofs.Text.Bits
import ModelGateway.Proofs.Credential.Key
