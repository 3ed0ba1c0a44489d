import AstarteDeviceSdk.Primitives
import AstarteDeviceSdk.Schema
import AstarteDeviceSdk.Endpoint
import AstarteDeviceSdk.DatastreamMapping
import AstarteDeviceSdk.AstarteData
import AstarteDeviceSdk.Uuid
import AstarteDeviceSdk.Introspection
import AstarteDeviceSdk.Client.Property
import AstarteDeviceSdk.Client.MemoryStore
import AstarteDeviceSdk.Client.PropertyRuns
import AstarteDeviceSdk.Client.Concurrent
import AstarteDeviceSdk.Client.Separation
import AstarteDeviceSdk.Client.Handles
