/-!
# EnumCodec.Text.CompatibilityTable

**Compatibility decompositions, combining classes and composition pairs.** The data are those of the
Unicode standard, version 14, written in hexadecimal: entries end in a comma and their numbers are
joined by dots. The syllables of Hangul are left out, because a formula gives them.
-/

namespace EnumCodec.Text

/-- Each entry is a character and its full compatibility decomposition; the character is given as its
distance from that of the entry before. -/
def decompositionRows : List String :=
  ["A0.20,8.20.308,2.61,5.20.304,3.32,1.33,1.20.301,1.3BC,3.20.327,1.31,1.6F,2.31.2044.34,",
   "1.31.2044.32,1.33.2044.34,2.41.300,1.41.301,1.41.302,1.41.303,1.41.308,1.41.30A,2.43.327,",
   "1.45.300,1.45.301,1.45.302,1.45.308,1.49.300,1.49.301,1.49.302,1.49.308,2.4E.303,1.4F.300,",
   "1.4F.301,1.4F.302,1.4F.303,1.4F.308,3.55.300,1.55.301,1.55.302,1.55.308,1.59.301,3.61.300,",
   "1.61.301,1.61.302,1.61.303,1.61.308,1.61.30A,2.63.327,1.65.300,1.65.301,1.65.302,1.65.308,",
   "1.69.300,1.69.301,1.69.302,1.69.308,2.6E.303,1.6F.300,1.6F.301,1.6F.302,1.6F.303,1.6F.308,",
   "3.75.300,1.75.301,1.75.302,1.75.308,1.79.301,2.79.308,1.41.304,1.61.304,1.41.306,1.61.306,",
   "1.41.328,1.61.328,1.43.301,1.63.301,1.43.302,1.63.302,1.43.307,1.63.307,1.43.30C,1.63.30C,",
   "1.44.30C,1.64.30C,3.45.304,1.65.304,1.45.306,1.65.306,1.45.307,1.65.307,1.45.328,1.65.328,",
   "1.45.30C,1.65.30C,1.47.302,1.67.302,1.47.306,1.67.306,1.47.307,1.67.307,1.47.327,1.67.327,",
   "1.48.302,1.68.302,3.49.303,1.69.303,1.49.304,1.69.304,1.49.306,1.69.306,1.49.328,1.69.328,",
   "1.49.307,2.49.4A,1.69.6A,1.4A.302,1.6A.302,1.4B.327,1.6B.327,2.4C.301,1.6C.301,1.4C.327,",
   "1.6C.327,1.4C.30C,1.6C.30C,1.4C.B7,1.6C.B7,3.4E.301,1.6E.301,1.4E.327,1.6E.327,1.4E.30C,",
   "1.6E.30C,1.2BC.6E,3.4F.304,1.6F.304,1.4F.306,1.6F.306,1.4F.30B,1.6F.30B,3.52.301,1.72.301,",
   "1.52.327,1.72.327,1.52.30C,1.72.30C,1.53.301,1.73.301,1.53.302,1.73.302,1.53.327,1.73.327,",
   "1.53.30C,1.73.30C,1.54.327,1.74.327,1.54.30C,1.74.30C,3.55.303,1.75.303,1.55.304,1.75.304,",
   "1.55.306,1.75.306,1.55.30A,1.75.30A,1.55.30B,1.75.30B,1.55.328,1.75.328,1.57.302,1.77.302,",
   "1.59.302,1.79.302,1.59.308,1.5A.301,1.7A.301,1.5A.307,1.7A.307,1.5A.30C,1.7A.30C,1.73,",
   "21.4F.31B,1.6F.31B,E.55.31B,1.75.31B,14.44.5A.30C,1.44.7A.30C,1.64.7A.30C,1.4C.4A,1.4C.6A,",
   "1.6C.6A,1.4E.4A,1.4E.6A,1.6E.6A,1.41.30C,1.61.30C,1.49.30C,1.69.30C,1.4F.30C,1.6F.30C,",
   "1.55.30C,1.75.30C,1.55.308.304,1.75.308.304,1.55.308.301,1.75.308.301,1.55.308.30C,",
   "1.75.308.30C,1.55.308.300,1.75.308.300,2.41.308.304,1.61.308.304,1.41.307.304,1.61.307.304,",
   "1.C6.304,1.E6.304,3.47.30C,1.67.30C,1.4B.30C,1.6B.30C,1.4F.328,1.6F.328,1.4F.328.304,",
   "1.6F.328.304,1.1B7.30C,1.292.30C,1.6A.30C,1.44.5A,1.44.7A,1.64.7A,1.47.301,1.67.301,",
   "3.4E.300,1.6E.300,1.41.30A.301,1.61.30A.301,1.C6.301,1.E6.301,1.D8.301,1.F8.301,1.41.30F,",
   "1.61.30F,1.41.311,1.61.311,1.45.30F,1.65.30F,1.45.311,1.65.311,1.49.30F,1.69.30F,1.49.311,",
   "1.69.311,1.4F.30F,1.6F.30F,1.4F.311,1.6F.311,1.52.30F,1.72.30F,1.52.311,1.72.311,1.55.30F,",
   "1.75.30F,1.55.311,1.75.311,1.53.326,1.73.326,1.54.326,1.74.326,3.48.30C,1.68.30C,7.41.307,",
   "1.61.307,1.45.327,1.65.327,1.4F.308.304,1.6F.308.304,1.4F.303.304,1.6F.303.304,1.4F.307,",
   "1.6F.307,1.4F.307.304,1.6F.307.304,1.59.304,1.79.304,7D.68,1.266,1.6A,1.72,1.279,1.27B,",
   "1.281,1.77,1.79,20.20.306,1.20.307,1.20.30A,1.20.328,1.20.303,1.20.30B,3.263,1.6C,1.73,1.78,",
   "1.295,5C.300,1.301,2.313,1.308.301,30.2B9,6.20.345,4.3B,6.20.301,1.20.308.301,1.391.301,",
   "1.B7,1.395.301,1.397.301,1.399.301,2.39F.301,2.3A5.301,1.3A9.301,1.3B9.308.301,1A.399.308,",
   "1.3A5.308,1.3B1.301,1.3B5.301,1.3B7.301,1.3B9.301,1.3C5.308.301,1A.3B9.308,1.3C5.308,",
   "1.3BF.301,1.3C5.301,1.3C9.301,2.3B2,1.3B8,1.3A5,1.3A5.301,1.3A5.308,1.3C6,1.3C0,1A.3BA,",
   "1.3C1,1.3C2,2.398,1.3B5,4.3A3,7.415.300,1.415.308,2.413.301,4.406.308,5.41A.301,1.418.300,",
   "1.423.306,B.418.306,20.438.306,17.435.300,1.435.308,2.433.301,4.456.308,5.43A.301,1.438.300,",
   "1.443.306,18.474.30F,1.475.30F,4A.416.306,1.436.306,E.410.306,1.430.306,1.410.308,1.430.308,",
   "3.415.306,1.435.306,3.4D8.308,1.4D9.308,1.416.308,1.436.308,1.417.308,1.437.308,3.418.304,",
   "1.438.304,1.418.308,1.438.308,1.41E.308,1.43E.308,3.4E8.308,1.4E9.308,1.42D.308,1.44D.308,",
   "1.423.304,1.443.304,1.423.308,1.443.308,1.423.30B,1.443.30B,1.427.308,1.447.308,3.42B.308,",
   "1.44B.308,8E.565.582,9B.627.653,1.627.654,1.648.654,1.627.655,1.64A.654,4F.627.674,",
   "1.648.674,1.6C7.674,1.64A.674,48.6D5.654,2.6C1.654,11.6D2.654,256.928.93C,8.930.93C,",
   "3.933.93C,24.915.93C,1.916.93C,1.917.93C,1.91C.93C,1.921.93C,1.922.93C,1.92B.93C,1.92F.93C,",
   "6C.9C7.9BE,1.9C7.9D7,10.9A1.9BC,1.9A2.9BC,2.9AF.9BC,54.A32.A3C,3.A38.A3C,23.A16.A3C,",
   "1.A17.A3C,1.A1C.A3C,3.A2B.A3C,EA.B47.B56,3.B47.B3E,1.B47.B57,10.B21.B3C,1.B22.B3C,",
   "37.B92.BD7,36.BC6.BBE,1.BC7.BBE,1.BC6.BD7,7C.C46.C56,78.CBF.CD5,7.CC6.CD5,1.CC6.CD6,",
   "2.CC6.CC2,1.CC6.CC2.CD5,7F.D46.D3E,1.D47.D3E,1.D46.D57,8E.DD9.DCA,2.DD9.DCF,1.DD9.DCF.DCA,",
   "1.DD9.DDF,55.E4D.E32,80.ECD.EB2,29.EAB.E99,1.EAB.EA1,2F.F0B,37.F42.FB7,A.F4C.FB7,5.F51.FB7,",
   "5.F56.FB7,5.F5B.FB7,D.F40.FB5,A.F71.F72,2.F71.F74,1.FB2.F80,1.FB2.F71.F80,1.FB3.F80,",
   "1.FB3.F71.F80,8.F71.F80,12.F92.FB7,A.F9C.FB7,5.FA1.FB7,5.FA6.FB7,5.FAB.FB7,D.F90.FB5,",
   "6D.1025.102E,D6.10DC,A0A.1B05.1B35,2.1B07.1B35,2.1B09.1B35,2.1B0B.1B35,2.1B0D.1B35,",
   "4.1B11.1B35,29.1B3A.1B35,2.1B3C.1B35,3.1B3E.1B35,1.1B3F.1B35,2.1B42.1B35,1E9.41,1.C6,1.42,",
   "2.44,1.45,1.18E,1.47,1.48,1.49,1.4A,1.4B,1.4C,1.4D,1.4E,2.4F,1.222,1.50,1.52,1.54,1.55,1.57,",
   "1.61,1.250,1.251,1.1D02,1.62,1.64,1.65,1.259,1.25B,1.25C,1.67,2.6B,1.6D,1.14B,1.6F,1.254,",
   "1.1D16,1.1D17,1.70,1.74,1.75,1.1D1D,1.26F,1.76,1.1D25,1.3B2,1.3B3,1.3B4,1.3C6,1.3C7,1.69,",
   "1.72,1.75,1.76,1.3B2,1.3B3,1.3C1,1.3C6,1.3C7,E.43D,23.252,1.63,1.255,1.F0,1.25C,1.66,1.25F,",
   "1.261,1.265,1.268,1.269,1.26A,1.1D7B,1.29D,1.26D,1.1D85,1.29F,1.271,1.270,1.272,1.273,1.274,",
   "1.275,1.278,1.282,1.283,1.1AB,1.289,1.28A,1.1D1C,1.28B,1.28C,1.7A,1.290,1.291,1.292,1.3B8,",
   "41.41.325,1.61.325,1.42.307,1.62.307,1.42.323,1.62.323,1.42.331,1.62.331,1.43.327.301,",
   "1.63.327.301,1.44.307,1.64.307,1.44.323,1.64.323,1.44.331,1.64.331,1.44.327,1.64.327,",
   "1.44.32D,1.64.32D,1.45.304.300,1.65.304.300,1.45.304.301,1.65.304.301,1.45.32D,1.65.32D,",
   "1.45.330,1.65.330,1.45.327.306,1.65.327.306,1.46.307,1.66.307,1.47.304,1.67.304,1.48.307,",
   "1.68.307,1.48.323,1.68.323,1.48.308,1.68.308,1.48.327,1.68.327,1.48.32E,1.68.32E,1.49.330,",
   "1.69.330,1.49.308.301,1.69.308.301,1.4B.301,1.6B.301,1.4B.323,1.6B.323,1.4B.331,1.6B.331,",
   "1.4C.323,1.6C.323,1.4C.323.304,1.6C.323.304,1.4C.331,1.6C.331,1.4C.32D,1.6C.32D,1.4D.301,",
   "1.6D.301,1.4D.307,1.6D.307,1.4D.323,1.6D.323,1.4E.307,1.6E.307,1.4E.323,1.6E.323,1.4E.331,",
   "1.6E.331,1.4E.32D,1.6E.32D,1.4F.303.301,1.6F.303.301,1.4F.303.308,1.6F.303.308,1.4F.304.300,",
   "1.6F.304.300,1.4F.304.301,1.6F.304.301,1.50.301,1.70.301,1.50.307,1.70.307,1.52.307,",
   "1.72.307,1.52.323,1.72.323,1.52.323.304,1.72.323.304,1.52.331,1.72.331,1.53.307,1.73.307,",
   "1.53.323,1.73.323,1.53.301.307,1.73.301.307,1.53.30C.307,1.73.30C.307,1.53.323.307,",
   "1.73.323.307,1.54.307,1.74.307,1.54.323,1.74.323,1.54.331,1.74.331,1.54.32D,1.74.32D,",
   "1.55.324,1.75.324,1.55.330,1.75.330,1.55.32D,1.75.32D,1.55.303.301,1.75.303.301,",
   "1.55.304.308,1.75.304.308,1.56.303,1.76.303,1.56.323,1.76.323,1.57.300,1.77.300,1.57.301,",
   "1.77.301,1.57.308,1.77.308,1.57.307,1.77.307,1.57.323,1.77.323,1.58.307,1.78.307,1.58.308,",
   "1.78.308,1.59.307,1.79.307,1.5A.302,1.7A.302,1.5A.323,1.7A.323,1.5A.331,1.7A.331,1.68.331,",
   "1.74.308,1.77.30A,1.79.30A,1.61.2BE,1.73.307,5.41.323,1.61.323,1.41.309,1.61.309,",
   "1.41.302.301,1.61.302.301,1.41.302.300,1.61.302.300,1.41.302.309,1.61.302.309,1.41.302.303,",
   "1.61.302.303,1.41.323.302,1.61.323.302,1.41.306.301,1.61.306.301,1.41.306.300,1.61.306.300,",
   "1.41.306.309,1.61.306.309,1.41.306.303,1.61.306.303,1.41.323.306,1.61.323.306,1.45.323,",
   "1.65.323,1.45.309,1.65.309,1.45.303,1.65.303,1.45.302.301,1.65.302.301,1.45.302.300,",
   "1.65.302.300,1.45.302.309,1.65.302.309,1.45.302.303,1.65.302.303,1.45.323.302,1.65.323.302,",
   "1.49.309,1.69.309,1.49.323,1.69.323,1.4F.323,1.6F.323,1.4F.309,1.6F.309,1.4F.302.301,",
   "1.6F.302.301,1.4F.302.300,1.6F.302.300,1.4F.302.309,1.6F.302.309,1.4F.302.303,1.6F.302.303,",
   "1.4F.323.302,1.6F.323.302,1.4F.31B.301,1.6F.31B.301,1.4F.31B.300,1.6F.31B.300,1.4F.31B.309,",
   "1.6F.31B.309,1.4F.31B.303,1.6F.31B.303,1.4F.31B.323,1.6F.31B.323,1.55.323,1.75.323,1.55.309,",
   "1.75.309,1.55.31B.301,1.75.31B.301,1.55.31B.300,1.75.31B.300,1.55.31B.309,1.75.31B.309,",
   "1.55.31B.303,1.75.31B.303,1.55.31B.323,1.75.31B.323,1.59.300,1.79.300,1.59.323,1.79.323,",
   "1.59.309,1.79.309,1.59.303,1.79.303,7.3B1.313,1.3B1.314,1.3B1.313.300,1.3B1.314.300,",
   "1.3B1.313.301,1.3B1.314.301,1.3B1.313.342,1.3B1.314.342,1.391.313,1.391.314,1.391.313.300,",
   "1.391.314.300,1.391.313.301,1.391.314.301,1.391.313.342,1.391.314.342,1.3B5.313,1.3B5.314,",
   "1.3B5.313.300,1.3B5.314.300,1.3B5.313.301,1.3B5.314.301,3.395.313,1.395.314,1.395.313.300,",
   "1.395.314.300,1.395.313.301,1.395.314.301,3.3B7.313,1.3B7.314,1.3B7.313.300,1.3B7.314.300,",
   "1.3B7.313.301,1.3B7.314.301,1.3B7.313.342,1.3B7.314.342,1.397.313,1.397.314,1.397.313.300,",
   "1.397.314.300,1.397.313.301,1.397.314.301,1.397.313.342,1.397.314.342,1.3B9.313,1.3B9.314,",
   "1.3B9.313.300,1.3B9.314.300,1.3B9.313.301,1.3B9.314.301,1.3B9.313.342,1.3B9.314.342,",
   "1.399.313,1.399.314,1.399.313.300,1.399.314.300,1.399.313.301,1.399.314.301,1.399.313.342,",
   "1.399.314.342,1.3BF.313,1.3BF.314,1.3BF.313.300,1.3BF.314.300,1.3BF.313.301,1.3BF.314.301,",
   "3.39F.313,1.39F.314,1.39F.313.300,1.39F.314.300,1.39F.313.301,1.39F.314.301,3.3C5.313,",
   "1.3C5.314,1.3C5.313.300,1.3C5.314.300,1.3C5.313.301,1.3C5.314.301,1.3C5.313.342,",
   "1.3C5.314.342,2.3A5.314,2.3A5.314.300,2.3A5.314.301,2.3A5.314.342,1.3C9.313,1.3C9.314,",
   "1.3C9.313.300,1.3C9.314.300,1.3C9.313.301,1.3C9.314.301,1.3C9.313.342,1.3C9.314.342,",
   "1.3A9.313,1.3A9.314,1.3A9.313.300,1.3A9.314.300,1.3A9.313.301,1.3A9.314.301,1.3A9.313.342,",
   "1.3A9.314.342,1.3B1.300,1.3B1.301,1.3B5.300,1.3B5.301,1.3B7.300,1.3B7.301,1.3B9.300,",
   "1.3B9.301,1.3BF.300,1.3BF.301,1.3C5.300,1.3C5.301,1.3C9.300,1.3C9.301,3.3B1.313.345,",
   "1.3B1.314.345,1.3B1.313.300.345,1.3B1.314.300.345,1.3B1.313.301.345,1.3B1.314.301.345,",
   "1.3B1.313.342.345,1.3B1.314.342.345,1.391.313.345,1.391.314.345,1.391.313.300.345,",
   "1.391.314.300.345,1.391.313.301.345,1.391.314.301.345,1.391.313.342.345,1.391.314.342.345,",
   "1.3B7.313.345,1.3B7.314.345,1.3B7.313.300.345,1.3B7.314.300.345,1.3B7.313.301.345,",
   "1.3B7.314.301.345,1.3B7.313.342.345,1.3B7.314.342.345,1.397.313.345,1.397.314.345,",
   "1.397.313.300.345,1.397.314.300.345,1.397.313.301.345,1.397.314.301.345,1.397.313.342.345,",
   "1.397.314.342.345,1.3C9.313.345,1.3C9.314.345,1.3C9.313.300.345,1.3C9.314.300.345,",
   "1.3C9.313.301.345,1.3C9.314.301.345,1.3C9.313.342.345,1.3C9.314.342.345,1.3A9.313.345,",
   "1.3A9.314.345,1.3A9.313.300.345,1.3A9.314.300.345,1.3A9.313.301.345,1.3A9.314.301.345,",
   "1.3A9.313.342.345,1.3A9.314.342.345,1.3B1.306,1.3B1.304,1.3B1.300.345,1.3B1.345,",
   "1.3B1.301.345,2.3B1.342,1.3B1.342.345,1.391.306,1.391.304,1.391.300,1.391.301,1.391.345,",
   "1.20.313,1.3B9,1.20.313,1.20.342,1.20.308.342,1.3B7.300.345,1.3B7.345,1.3B7.301.345,",
   "2.3B7.342,1.3B7.342.345,1.395.300,1.395.301,1.397.300,1.397.301,1.397.345,1.20.313.300,",
   "1.20.313.301,1.20.313.342,1.3B9.306,1.3B9.304,1.3B9.308.300,1.3B9.308.301,3.3B9.342,",
   "1.3B9.308.342,1.399.306,1.399.304,1.399.300,1.399.301,2.20.314.300,1.20.314.301,",
   "1.20.314.342,1.3C5.306,1.3C5.304,1.3C5.308.300,1.3C5.308.301,1.3C1.313,1.3C1.314,1.3C5.342,",
   "1.3C5.308.342,1.3A5.306,1.3A5.304,1.3A5.300,1.3A5.301,1.3A1.314,1.20.308.300,1.20.308.301,",
   "1.60,3.3C9.300.345,1.3C9.345,1.3C9.301.345,2.3C9.342,1.3C9.342.345,1.39F.300,1.39F.301,",
   "1.3A9.300,1.3A9.301,1.3A9.345,1.20.301,1.20.314,2.20,1.20,1.20,1.20,1.20,1.20,1.20,1.20,",
   "1.20,1.20,1.20,7.2010,6.20.333,D.2E,1.2E.2E,1.2E.2E.2E,9.20,4.2032.2032,1.2032.2032.2032,",
   "2.2035.2035,1.2035.2035.2035,5.21.21,2.20.305,9.3F.3F,1.3F.21,1.21.3F,E.2032.2032.2032.2032,",
   "8.20,11.30,1.69,3.34,1.35,1.36,1.37,1.38,1.39,1.2B,1.2212,1.3D,1.28,1.29,1.6E,1.30,1.31,",
   "1.32,1.33,1.34,1.35,1.36,1.37,1.38,1.39,1.2B,1.2212,1.3D,1.28,1.29,2.61,1.65,1.6F,1.78,",
   "1.259,1.68,1.6B,1.6C,1.6D,1.6E,1.70,1.73,1.74,C.52.73,58.61.2F.63,1.61.2F.73,1.43,1.B0.43,",
   "2.63.2F.6F,1.63.2F.75,1.190,2.B0.46,1.67,1.48,1.48,1.48,1.68,1.127,1.49,1.49,1.4C,1.6C,2.4E,",
   "1.4E.6F,3.50,1.51,1.52,1.52,1.52,3.53.4D,1.54.45.4C,1.54.4D,2.5A,2.3A9,2.5A,2.4B,1.41.30A,",
   "1.42,1.43,2.65,1.45,1.46,2.4D,1.6F,1.5D0,1.5D1,1.5D2,1.5D3,1.69,2.46.41.58,1.3C0,1.3B3,",
   "1.393,1.3A0,1.2211,5.44,1.64,1.65,1.69,1.6A,7.31.2044.37,1.31.2044.39,1.31.2044.31.30,",
   "1.31.2044.33,1.32.2044.33,1.31.2044.35,1.32.2044.35,1.33.2044.35,1.34.2044.35,1.31.2044.36,",
   "1.35.2044.36,1.31.2044.38,1.33.2044.38,1.35.2044.38,1.37.2044.38,1.31.2044,1.49,1.49.49,",
   "1.49.49.49,1.49.56,1.56,1.56.49,1.56.49.49,1.56.49.49.49,1.49.58,1.58,1.58.49,1.58.49.49,",
   "1.4C,1.43,1.44,1.4D,1.69,1.69.69,1.69.69.69,1.69.76,1.76,1.76.69,1.76.69.69,1.76.69.69.69,",
   "1.69.78,1.78,1.78.69,1.78.69.69,1.6C,1.63,1.64,1.6D,A.30.2044.33,11.2190.338,1.2192.338,",
   "13.2194.338,1F.21D0.338,1.21D4.338,1.21D2.338,35.2203.338,5.2208.338,3.220B.338,18.2223.338,",
   "2.2225.338,6.222B.222B,1.222B.222B.222B,2.222E.222E,1.222E.222E.222E,11.223C.338,3.2243.338,",
   "3.2245.338,2.2248.338,17.3D.338,2.2261.338,B.224D.338,1.3C.338,1.3E.338,1.2264.338,",
   "1.2265.338,3.2272.338,1.2273.338,3.2276.338,1.2277.338,7.227A.338,1.227B.338,3.2282.338,",
   "1.2283.338,3.2286.338,1.2287.338,23.22A2.338,1.22A8.338,1.22A9.338,1.22AB.338,31.227C.338,",
   "1.227D.338,1.2291.338,1.2292.338,7.22B2.338,1.22B3.338,1.22B4.338,1.22B5.338,3C.3008,1.3009,",
   "136.31,1.32,1.33,1.34,1.35,1.36,1.37,1.38,1.39,1.31.30,1.31.31,1.31.32,1.31.33,1.31.34,",
   "1.31.35,1.31.36,1.31.37,1.31.38,1.31.39,1.32.30,1.28.31.29,1.28.32.29,1.28.33.29,1.28.34.29,",
   "1.28.35.29,1.28.36.29,1.28.37.29,1.28.38.29,1.28.39.29,1.28.31.30.29,1.28.31.31.29,",
   "1.28.31.32.29,1.28.31.33.29,1.28.31.34.29,1.28.31.35.29,1.28.31.36.29,1.28.31.37.29,",
   "1.28.31.38.29,1.28.31.39.29,1.28.32.30.29,1.31.2E,1.32.2E,1.33.2E,1.34.2E,1.35.2E,1.36.2E,",
   "1.37.2E,1.38.2E,1.39.2E,1.31.30.2E,1.31.31.2E,1.31.32.2E,1.31.33.2E,1.31.34.2E,1.31.35.2E,",
   "1.31.36.2E,1.31.37.2E,1.31.38.2E,1.31.39.2E,1.32.30.2E,1.28.61.29,1.28.62.29,1.28.63.29,",
   "1.28.64.29,1.28.65.29,1.28.66.29,1.28.67.29,1.28.68.29,1.28.69.29,1.28.6A.29,1.28.6B.29,",
   "1.28.6C.29,1.28.6D.29,1.28.6E.29,1.28.6F.29,1.28.70.29,1.28.71.29,1.28.72.29,1.28.73.29,",
   "1.28.74.29,1.28.75.29,1.28.76.29,1.28.77.29,1.28.78.29,1.28.79.29,1.28.7A.29,1.41,1.42,1.43,",
   "1.44,1.45,1.46,1.47,1.48,1.49,1.4A,1.4B,1.4C,1.4D,1.4E,1.4F,1.50,1.51,1.52,1.53,1.54,1.55,",
   "1.56,1.57,1.58,1.59,1.5A,1.61,1.62,1.63,1.64,1.65,1.66,1.67,1.68,1.69,1.6A,1.6B,1.6C,1.6D,",
   "1.6E,1.6F,1.70,1.71,1.72,1.73,1.74,1.75,1.76,1.77,1.78,1.79,1.7A,1.30,",
   "522.222B.222B.222B.222B,68.3A.3A.3D,1.3D.3D,1.3D.3D.3D,66.2ADD.338,1A0.6A,1.56,F2.2D61,",
   "130.6BCD,54.9F9F,D.4E00,1.4E28,1.4E36,1.4E3F,1.4E59,1.4E85,1.4E8C,1.4EA0,1.4EBA,1.513F,",
   "1.5165,1.516B,1.5182,1.5196,1.51AB,1.51E0,1.51F5,1.5200,1.529B,1.52F9,1.5315,1.531A,1.5338,",
   "1.5341,1.535C,1.5369,1.5382,1.53B6,1.53C8,1.53E3,1.56D7,1.571F,1.58EB,1.5902,1.590A,1.5915,",
   "1.5927,1.5973,1.5B50,1.5B80,1.5BF8,1.5C0F,1.5C22,1.5C38,1.5C6E,1.5C71,1.5DDB,1.5DE5,1.5DF1,",
   "1.5DFE,1.5E72,1.5E7A,1.5E7F,1.5EF4,1.5EFE,1.5F0B,1.5F13,1.5F50,1.5F61,1.5F73,1.5FC3,1.6208,",
   "1.6236,1.624B,1.652F,1.6534,1.6587,1.6597,1.65A4,1.65B9,1.65E0,1.65E5,1.66F0,1.6708,1.6728,",
   "1.6B20,1.6B62,1.6B79,1.6BB3,1.6BCB,1.6BD4,1.6BDB,1.6C0F,1.6C14,1.6C34,1.706B,1.722A,1.7236,",
   "1.723B,1.723F,1.7247,1.7259,1.725B,1.72AC,1.7384,1.7389,1.74DC,1.74E6,1.7518,1.751F,1.7528,",
   "1.7530,1.758B,1.7592,1.7676,1.767D,1.76AE,1.76BF,1.76EE,1.77DB,1.77E2,1.77F3,1.793A,1.79B8,",
   "1.79BE,1.7A74,1.7ACB,1.7AF9,1.7C73,1.7CF8,1.7F36,1.7F51,1.7F8A,1.7FBD,1.8001,1.800C,1.8012,",
   "1.8033,1.807F,1.8089,1.81E3,1.81EA,1.81F3,1.81FC,1.820C,1.821B,1.821F,1.826E,1.8272,1.8278,",
   "1.864D,1.866B,1.8840,1.884C,1.8863,1.897E,1.898B,1.89D2,1.8A00,1.8C37,1.8C46,1.8C55,1.8C78,",
   "1.8C9D,1.8D64,1.8D70,1.8DB3,1.8EAB,1.8ECA,1.8F9B,1.8FB0,1.8FB5,1.9091,1.9149,1.91C6,1.91CC,",
   "1.91D1,1.9577,1.9580,1.961C,1.96B6,1.96B9,1.96E8,1.9751,1.975E,1.9762,1.9769,1.97CB,1.97ED,",
   "1.97F3,1.9801,1.98A8,1.98DB,1.98DF,1.9996,1.9999,1.99AC,1.9AA8,1.9AD8,1.9ADF,1.9B25,1.9B2F,",
   "1.9B32,1.9B3C,1.9B5A,1.9CE5,1.9E75,1.9E7F,1.9EA5,1.9EBB,1.9EC3,1.9ECD,1.9ED1,1.9EF9,1.9EFD,",
   "1.9F0E,1.9F13,1.9F20,1.9F3B,1.9F4A,1.9F52,1.9F8D,1.9F9C,1.9FA0,2B.20,36.3012,2.5341,1.5344,",
   "1.5345,12.304B.3099,2.304D.3099,2.304F.3099,2.3051.3099,2.3053.3099,2.3055.3099,2.3057.3099,",
   "2.3059.3099,2.305B.3099,2.305D.3099,2.305F.3099,2.3061.3099,3.3064.3099,2.3066.3099,",
   "2.3068.3099,7.306F.3099,1.306F.309A,2.3072.3099,1.3072.309A,2.3075.3099,1.3075.309A,",
   "2.3078.3099,1.3078.309A,2.307B.3099,1.307B.309A,17.3046.3099,7.20.3099,1.20.309A,",
   "2.309D.3099,1.3088.308A,D.30AB.3099,2.30AD.3099,2.30AF.3099,2.30B1.3099,2.30B3.3099,",
   "2.30B5.3099,2.30B7.3099,2.30B9.3099,2.30BB.3099,2.30BD.3099,2.30BF.3099,2.30C1.3099,",
   "3.30C4.3099,2.30C6.3099,2.30C8.3099,7.30CF.3099,1.30CF.309A,2.30D2.3099,1.30D2.309A,",
   "2.30D5.3099,1.30D5.309A,2.30D8.3099,1.30D8.309A,2.30DB.3099,1.30DB.309A,17.30A6.3099,",
   "3.30EF.3099,1.30F0.3099,1.30F1.3099,1.30F2.3099,4.30FD.3099,1.30B3.30C8,32.1100,1.1101,",
   "1.11AA,1.1102,1.11AC,1.11AD,1.1103,1.1104,1.1105,1.11B0,1.11B1,1.11B2,1.11B3,1.11B4,1.11B5,",
   "1.111A,1.1106,1.1107,1.1108,1.1121,1.1109,1.110A,1.110B,1.110C,1.110D,1.110E,1.110F,1.1110,",
   "1.1111,1.1112,1.1161,1.1162,1.1163,1.1164,1.1165,1.1166,1.1167,1.1168,1.1169,1.116A,1.116B,",
   "1.116C,1.116D,1.116E,1.116F,1.1170,1.1171,1.1172,1.1173,1.1174,1.1175,1.1160,1.1114,1.1115,",
   "1.11C7,1.11C8,1.11CC,1.11CE,1.11D3,1.11D7,1.11D9,1.111C,1.11DD,1.11DF,1.111D,1.111E,1.1120,",
   "1.1122,1.1123,1.1127,1.1129,1.112B,1.112C,1.112D,1.112E,1.112F,1.1132,1.1136,1.1140,1.1147,",
   "1.114C,1.11F1,1.11F2,1.1157,1.1158,1.1159,1.1184,1.1185,1.1188,1.1191,1.1192,1.1194,1.119E,",
   "1.11A1,4.4E00,1.4E8C,1.4E09,1.56DB,1.4E0A,1.4E2D,1.4E0B,1.7532,1.4E59,1.4E19,1.4E01,1.5929,",
   "1.5730,1.4EBA,61.28.1100.29,1.28.1102.29,1.28.1103.29,1.28.1105.29,1.28.1106.29,",
   "1.28.1107.29,1.28.1109.29,1.28.110B.29,1.28.110C.29,1.28.110E.29,1.28.110F.29,1.28.1110.29,",
   "1.28.1111.29,1.28.1112.29,1.28.1100.1161.29,1.28.1102.1161.29,1.28.1103.1161.29,",
   "1.28.1105.1161.29,1.28.1106.1161.29,1.28.1107.1161.29,1.28.1109.1161.29,1.28.110B.1161.29,",
   "1.28.110C.1161.29,1.28.110E.1161.29,1.28.110F.1161.29,1.28.1110.1161.29,1.28.1111.1161.29,",
   "1.28.1112.1161.29,1.28.110C.116E.29,1.28.110B.1169.110C.1165.11AB.29,",
   "1.28.110B.1169.1112.116E.29,2.28.4E00.29,1.28.4E8C.29,1.28.4E09.29,1.28.56DB.29,",
   "1.28.4E94.29,1.28.516D.29,1.28.4E03.29,1.28.516B.29,1.28.4E5D.29,1.28.5341.29,1.28.6708.29,",
   "1.28.706B.29,1.28.6C34.29,1.28.6728.29,1.28.91D1.29,1.28.571F.29,1.28.65E5.29,1.28.682A.29,",
   "1.28.6709.29,1.28.793E.29,1.28.540D.29,1.28.7279.29,1.28.8CA1.29,1.28.795D.29,1.28.52B4.29,",
   "1.28.4EE3.29,1.28.547C.29,1.28.5B66.29,1.28.76E3.29,1.28.4F01.29,1.28.8CC7.29,1.28.5354.29,",
   "1.28.796D.29,1.28.4F11.29,1.28.81EA.29,1.28.81F3.29,1.554F,1.5E7C,1.6587,1.7B8F,9.50.54.45,",
   "1.32.31,1.32.32,1.32.33,1.32.34,1.32.35,1.32.36,1.32.37,1.32.38,1.32.39,1.33.30,1.33.31,",
   "1.33.32,1.33.33,1.33.34,1.33.35,1.1100,1.1102,1.1103,1.1105,1.1106,1.1107,1.1109,1.110B,",
   "1.110C,1.110E,1.110F,1.1110,1.1111,1.1112,1.1100.1161,1.1102.1161,1.1103.1161,1.1105.1161,",
   "1.1106.1161,1.1107.1161,1.1109.1161,1.110B.1161,1.110C.1161,1.110E.1161,1.110F.1161,",
   "1.1110.1161,1.1111.1161,1.1112.1161,1.110E.1161.11B7.1100.1169,1.110C.116E.110B.1174,",
   "1.110B.116E,2.4E00,1.4E8C,1.4E09,1.56DB,1.4E94,1.516D,1.4E03,1.516B,1.4E5D,1.5341,1.6708,",
   "1.706B,1.6C34,1.6728,1.91D1,1.571F,1.65E5,1.682A,1.6709,1.793E,1.540D,1.7279,1.8CA1,1.795D,",
   "1.52B4,1.79D8,1.7537,1.5973,1.9069,1.512A,1.5370,1.6CE8,1.9805,1.4F11,1.5199,1.6B63,1.4E0A,",
   "1.4E2D,1.4E0B,1.5DE6,1.53F3,1.533B,1.5B97,1.5B66,1.76E3,1.4F01,1.8CC7,1.5354,1.591C,1.33.36,",
   "1.33.37,1.33.38,1.33.39,1.34.30,1.34.31,1.34.32,1.34.33,1.34.34,1.34.35,1.34.36,1.34.37,",
   "1.34.38,1.34.39,1.35.30,1.31.6708,1.32.6708,1.33.6708,1.34.6708,1.35.6708,1.36.6708,",
   "1.37.6708,1.38.6708,1.39.6708,1.31.30.6708,1.31.31.6708,1.31.32.6708,1.48.67,1.65.72.67,",
   "1.65.56,1.4C.54.44,1.30A2,1.30A4,1.30A6,1.30A8,1.30AA,1.30AB,1.30AD,1.30AF,1.30B1,1.30B3,",
   "1.30B5,1.30B7,1.30B9,1.30BB,1.30BD,1.30BF,1.30C1,1.30C4,1.30C6,1.30C8,1.30CA,1.30CB,1.30CC,",
   "1.30CD,1.30CE,1.30CF,1.30D2,1.30D5,1.30D8,1.30DB,1.30DE,1.30DF,1.30E0,1.30E1,1.30E2,1.30E4,",
   "1.30E6,1.30E8,1.30E9,1.30EA,1.30EB,1.30EC,1.30ED,1.30EF,1.30F0,1.30F1,1.30F2,1.4EE4.548C,",
   "1.30A2.30CF.309A.30FC.30C8,1.30A2.30EB.30D5.30A1,1.30A2.30F3.30D8.309A.30A2,",
   "1.30A2.30FC.30EB,1.30A4.30CB.30F3.30AF.3099,1.30A4.30F3.30C1,1.30A6.30A9.30F3,",
   "1.30A8.30B9.30AF.30FC.30C8.3099,1.30A8.30FC.30AB.30FC,1.30AA.30F3.30B9,1.30AA.30FC.30E0,",
   "1.30AB.30A4.30EA,1.30AB.30E9.30C3.30C8,1.30AB.30ED.30EA.30FC,1.30AB.3099.30ED.30F3,",
   "1.30AB.3099.30F3.30DE,1.30AD.3099.30AB.3099,1.30AD.3099.30CB.30FC,1.30AD.30E5.30EA.30FC,",
   "1.30AD.3099.30EB.30BF.3099.30FC,1.30AD.30ED,1.30AD.30ED.30AF.3099.30E9.30E0,",
   "1.30AD.30ED.30E1.30FC.30C8.30EB,1.30AD.30ED.30EF.30C3.30C8,1.30AF.3099.30E9.30E0,",
   "1.30AF.3099.30E9.30E0.30C8.30F3,1.30AF.30EB.30BB.3099.30A4.30ED,1.30AF.30ED.30FC.30CD,",
   "1.30B1.30FC.30B9,1.30B3.30EB.30CA,1.30B3.30FC.30DB.309A,1.30B5.30A4.30AF.30EB,",
   "1.30B5.30F3.30C1.30FC.30E0,1.30B7.30EA.30F3.30AF.3099,1.30BB.30F3.30C1,1.30BB.30F3.30C8,",
   "1.30BF.3099.30FC.30B9,1.30C6.3099.30B7,1.30C8.3099.30EB,1.30C8.30F3,1.30CA.30CE,",
   "1.30CE.30C3.30C8,1.30CF.30A4.30C4,1.30CF.309A.30FC.30BB.30F3.30C8,1.30CF.309A.30FC.30C4,",
   "1.30CF.3099.30FC.30EC.30EB,1.30D2.309A.30A2.30B9.30C8.30EB,1.30D2.309A.30AF.30EB,",
   "1.30D2.309A.30B3,1.30D2.3099.30EB,1.30D5.30A1.30E9.30C3.30C8.3099,1.30D5.30A3.30FC.30C8,",
   "1.30D5.3099.30C3.30B7.30A7.30EB,1.30D5.30E9.30F3,1.30D8.30AF.30BF.30FC.30EB,",
   "1.30D8.309A.30BD,1.30D8.309A.30CB.30D2,1.30D8.30EB.30C4,1.30D8.309A.30F3.30B9,",
   "1.30D8.309A.30FC.30B7.3099,1.30D8.3099.30FC.30BF,1.30DB.309A.30A4.30F3.30C8,",
   "1.30DB.3099.30EB.30C8,1.30DB.30F3,1.30DB.309A.30F3.30C8.3099,1.30DB.30FC.30EB,",
   "1.30DB.30FC.30F3,1.30DE.30A4.30AF.30ED,1.30DE.30A4.30EB,1.30DE.30C3.30CF,1.30DE.30EB.30AF,",
   "1.30DE.30F3.30B7.30E7.30F3,1.30DF.30AF.30ED.30F3,1.30DF.30EA,",
   "1.30DF.30EA.30CF.3099.30FC.30EB,1.30E1.30AB.3099,1.30E1.30AB.3099.30C8.30F3,",
   "1.30E1.30FC.30C8.30EB,1.30E4.30FC.30C8.3099,1.30E4.30FC.30EB,1.30E6.30A2.30F3,",
   "1.30EA.30C3.30C8.30EB,1.30EA.30E9,1.30EB.30D2.309A.30FC,1.30EB.30FC.30D5.3099.30EB,",
   "1.30EC.30E0,1.30EC.30F3.30C8.30B1.3099.30F3,1.30EF.30C3.30C8,1.30.70B9,1.31.70B9,1.32.70B9,",
   "1.33.70B9,1.34.70B9,1.35.70B9,1.36.70B9,1.37.70B9,1.38.70B9,1.39.70B9,1.31.30.70B9,",
   "1.31.31.70B9,1.31.32.70B9,1.31.33.70B9,1.31.34.70B9,1.31.35.70B9,1.31.36.70B9,1.31.37.70B9,",
   "1.31.38.70B9,1.31.39.70B9,1.32.30.70B9,1.32.31.70B9,1.32.32.70B9,1.32.33.70B9,1.32.34.70B9,",
   "1.68.50.61,1.64.61,1.41.55,1.62.61.72,1.6F.56,1.70.63,1.64.6D,1.64.6D.32,1.64.6D.33,1.49.55,",
   "1.5E73.6210,1.662D.548C,1.5927.6B63,1.660E.6CBB,1.682A.5F0F.4F1A.793E,1.70.41,1.6E.41,",
   "1.3BC.41,1.6D.41,1.6B.41,1.4B.42,1.4D.42,1.47.42,1.63.61.6C,1.6B.63.61.6C,1.70.46,1.6E.46,",
   "1.3BC.46,1.3BC.67,1.6D.67,1.6B.67,1.48.7A,1.6B.48.7A,1.4D.48.7A,1.47.48.7A,1.54.48.7A,",
   "1.3BC.6C,1.6D.6C,1.64.6C,1.6B.6C,1.66.6D,1.6E.6D,1.3BC.6D,1.6D.6D,1.63.6D,1.6B.6D,",
   "1.6D.6D.32,1.63.6D.32,1.6D.32,1.6B.6D.32,1.6D.6D.33,1.63.6D.33,1.6D.33,1.6B.6D.33,",
   "1.6D.2215.73,1.6D.2215.73.32,1.50.61,1.6B.50.61,1.4D.50.61,1.47.50.61,1.72.61.64,",
   "1.72.61.64.2215.73,1.72.61.64.2215.73.32,1.70.73,1.6E.73,1.3BC.73,1.6D.73,1.70.56,1.6E.56,",
   "1.3BC.56,1.6D.56,1.6B.56,1.4D.56,1.70.57,1.6E.57,1.3BC.57,1.6D.57,1.6B.57,1.4D.57,1.6B.3A9,",
   "1.4D.3A9,1.61.2E.6D.2E,1.42.71,1.63.63,1.63.64,1.43.2215.6B.67,1.43.6F.2E,1.64.42,1.47.79,",
   "1.68.61,1.48.50,1.69.6E,1.4B.4B,1.4B.4D,1.6B.74,1.6C.6D,1.6C.6E,1.6C.6F.67,1.6C.78,1.6D.62,",
   "1.6D.69.6C,1.6D.6F.6C,1.50.48,1.70.2E.6D.2E,1.50.50.4D,1.50.52,1.73.72,1.53.76,1.57.62,",
   "1.56.2215.6D,1.41.2215.6D,1.31.65E5,1.32.65E5,1.33.65E5,1.34.65E5,1.35.65E5,1.36.65E5,",
   "1.37.65E5,1.38.65E5,1.39.65E5,1.31.30.65E5,1.31.31.65E5,1.31.32.65E5,1.31.33.65E5,",
   "1.31.34.65E5,1.31.35.65E5,1.31.36.65E5,1.31.37.65E5,1.31.38.65E5,1.31.39.65E5,1.32.30.65E5,",
   "1.32.31.65E5,1.32.32.65E5,1.32.33.65E5,1.32.34.65E5,1.32.35.65E5,1.32.36.65E5,1.32.37.65E5,",
   "1.32.38.65E5,1.32.39.65E5,1.33.30.65E5,1.33.31.65E5,1.67.61.6C,729D.44A,1.44C,D3.A76F,82.43,",
   "1.46,1.51,4.126,1.153,363.A727,1.AB37,1.26B,1.AB52,A.28D,4D97.8C48,1.66F4,1.8ECA,1.8CC8,",
   "1.6ED1,1.4E32,1.53E5,1.9F9C,1.9F9C,1.5951,1.91D1,1.5587,1.5948,1.61F6,1.7669,1.7F85,1.863F,",
   "1.87BA,1.88F8,1.908F,1.6A02,1.6D1B,1.70D9,1.73DE,1.843D,1.916A,1.99F1,1.4E82,1.5375,1.6B04,",
   "1.721B,1.862D,1.9E1E,1.5D50,1.6FEB,1.85CD,1.8964,1.62C9,1.81D8,1.881F,1.5ECA,1.6717,1.6D6A,",
   "1.72FC,1.90CE,1.4F86,1.51B7,1.52DE,1.64C4,1.6AD3,1.7210,1.76E7,1.8001,1.8606,1.865C,1.8DEF,",
   "1.9732,1.9B6F,1.9DFA,1.788C,1.797F,1.7DA0,1.83C9,1.9304,1.9E7F,1.8AD6,1.58DF,1.5F04,1.7C60,",
   "1.807E,1.7262,1.78CA,1.8CC2,1.96F7,1.58D8,1.5C62,1.6A13,1.6DDA,1.6F0F,1.7D2F,1.7E37,1.964B,",
   "1.52D2,1.808B,1.51DC,1.51CC,1.7A1C,1.7DBE,1.83F1,1.9675,1.8B80,1.62CF,1.6A02,1.8AFE,1.4E39,",
   "1.5BE7,1.6012,1.7387,1.7570,1.5317,1.78FB,1.4FBF,1.5FA9,1.4E0D,1.6CCC,1.6578,1.7D22,1.53C3,",
   "1.585E,1.7701,1.8449,1.8AAA,1.6BBA,1.8FB0,1.6C88,1.62FE,1.82E5,1.63A0,1.7565,1.4EAE,1.5169,",
   "1.51C9,1.6881,1.7CE7,1.826F,1.8AD2,1.91CF,1.52F5,1.5442,1.5973,1.5EEC,1.65C5,1.6FFE,1.792A,",
   "1.95AD,1.9A6A,1.9E97,1.9ECE,1.529B,1.66C6,1.6B77,1.8F62,1.5E74,1.6190,1.6200,1.649A,1.6F23,",
   "1.7149,1.7489,1.79CA,1.7DF4,1.806F,1.8F26,1.84EE,1.9023,1.934A,1.5217,1.52A3,1.54BD,1.70C8,",
   "1.88C2,1.8AAA,1.5EC9,1.5FF5,1.637B,1.6BAE,1.7C3E,1.7375,1.4EE4,1.56F9,1.5BE7,1.5DBA,1.601C,",
   "1.73B2,1.7469,1.7F9A,1.8046,1.9234,1.96F6,1.9748,1.9818,1.4F8B,1.79AE,1.91B4,1.96B8,1.60E1,",
   "1.4E86,1.50DA,1.5BEE,1.5C3F,1.6599,1.6A02,1.71CE,1.7642,1.84FC,1.907C,1.9F8D,1.6688,1.962E,",
   "1.5289,1.677B,1.67F3,1.6D41,1.6E9C,1.7409,1.7559,1.786B,1.7D10,1.985E,1.516D,1.622E,1.9678,",
   "1.502B,1.5D19,1.6DEA,1.8F2A,1.5F8B,1.6144,1.6817,1.7387,1.9686,1.5229,1.540F,1.5C65,1.6613,",
   "1.674E,1.68A8,1.6CE5,1.7406,1.75E2,1.7F79,1.88CF,1.88E1,1.91CC,1.96E2,1.533F,1.6EBA,1.541D,",
   "1.71D0,1.7498,1.85FA,1.96A3,1.9C57,1.9E9F,1.6797,1.6DCB,1.81E8,1.7ACB,1.7B20,1.7C92,1.72C0,",
   "1.7099,1.8B58,1.4EC0,1.8336,1.523A,1.5207,1.5EA6,1.62D3,1.7CD6,1.5B85,1.6D1E,1.66B4,1.8F3B,",
   "1.884C,1.964D,1.898B,1.5ED3,1.5140,1.55C0,3.585A,2.6674,3.51DE,1.732A,1.76CA,1.793C,1.795E,",
   "1.7965,1.798F,1.9756,1.7CBE,1.7FBD,2.8612,2.8AF8,3.9038,1.90FD,4.98EF,1.98FC,1.9928,1.9DB4,",
   "1.90DE,1.96B7,1.4FAE,1.50E7,1.514D,1.52C9,1.52E4,1.5351,1.559D,1.5606,1.5668,1.5840,1.58A8,",
   "1.5C64,1.5C6E,1.6094,1.6168,1.618E,1.61F2,1.654F,1.65E2,1.6691,1.6885,1.6D77,1.6E1A,1.6F22,",
   "1.716E,1.722B,1.7422,1.7891,1.793E,1.7949,1.7948,1.7950,1.7956,1.795D,1.798D,1.798E,1.7A40,",
   "1.7A81,1.7BC0,1.7DF4,1.7E09,1.7E41,1.7F72,1.8005,1.81ED,1.8279,1.8279,1.8457,1.8910,1.8996,",
   "1.8B01,1.8B39,1.8CD3,1.8D08,1.8FB6,1.9038,1.96E3,1.97FF,1.983B,1.6075,1.242EE,1.8218,3.4E26,",
   "1.51B5,1.5168,1.4F80,1.5145,1.5180,1.52C7,1.52FA,1.559D,1.5555,1.5599,1.55E2,1.585A,1.58B3,",
   "1.5944,1.5954,1.5A62,1.5B28,1.5ED2,1.5ED9,1.5F69,1.5FAD,1.60D8,1.614E,1.6108,1.618E,1.6160,",
   "1.61F2,1.6234,1.63C4,1.641C,1.6452,1.6556,1.6674,1.6717,1.671B,1.6756,1.6B79,1.6BBA,1.6D41,",
   "1.6EDB,1.6ECB,1.6F22,1.701E,1.716E,1.77A7,1.7235,1.72AF,1.732A,1.7471,1.7506,1.753B,1.761D,",
   "1.761F,1.76CA,1.76DB,1.76F4,1.774A,1.7740,1.78CC,1.7AB1,1.7BC0,1.7C7B,1.7D5B,1.7DF4,1.7F3E,",
   "1.8005,1.8352,1.83EF,1.8779,1.8941,1.8986,1.8996,1.8ABF,1.8AF8,1.8ACB,1.8B01,1.8AFE,1.8AED,",
   "1.8B39,1.8B8A,1.8D08,1.8F38,1.9072,1.9199,1.9276,1.967C,1.96E3,1.9756,1.97DB,1.97FF,1.980B,",
   "1.983B,1.9B12,1.9F9C,1.2284A,1.22844,1.233D5,1.3B9D,1.4018,1.4039,1.25249,1.25CD0,1.27ED3,",
   "1.9F43,1.9F8E,27.66.66,1.66.69,1.66.6C,1.66.66.69,1.66.66.6C,1.73.74,1.73.74,D.574.576,",
   "1.574.565,1.574.56B,1.57E.576,1.574.56D,6.5D9.5B4,2.5F2.5B7,1.5E2,1.5D0,1.5D3,1.5D4,1.5DB,",
   "1.5DC,1.5DD,1.5E8,1.5EA,1.2B,1.5E9.5C1,1.5E9.5C2,1.5E9.5BC.5C1,1.5E9.5BC.5C2,1.5D0.5B7,",
   "1.5D0.5B8,1.5D0.5BC,1.5D1.5BC,1.5D2.5BC,1.5D3.5BC,1.5D4.5BC,1.5D5.5BC,1.5D6.5BC,2.5D8.5BC,",
   "1.5D9.5BC,1.5DA.5BC,1.5DB.5BC,1.5DC.5BC,2.5DE.5BC,2.5E0.5BC,1.5E1.5BC,2.5E3.5BC,1.5E4.5BC,",
   "2.5E6.5BC,1.5E7.5BC,1.5E8.5BC,1.5E9.5BC,1.5EA.5BC,1.5D5.5B9,1.5D1.5BF,1.5DB.5BF,1.5E4.5BF,",
   "1.5D0.5DC,1.671,1.671,1.67B,1.67B,1.67B,1.67B,1.67E,1.67E,1.67E,1.67E,1.680,1.680,1.680,",
   "1.680,1.67A,1.67A,1.67A,1.67A,1.67F,1.67F,1.67F,1.67F,1.679,1.679,1.679,1.679,1.6A4,1.6A4,",
   "1.6A4,1.6A4,1.6A6,1.6A6,1.6A6,1.6A6,1.684,1.684,1.684,1.684,1.683,1.683,1.683,1.683,1.686,",
   "1.686,1.686,1.686,1.687,1.687,1.687,1.687,1.68D,1.68D,1.68C,1.68C,1.68E,1.68E,1.688,1.688,",
   "1.698,1.698,1.691,1.691,1.6A9,1.6A9,1.6A9,1.6A9,1.6AF,1.6AF,1.6AF,1.6AF,1.6B3,1.6B3,1.6B3,",
   "1.6B3,1.6B1,1.6B1,1.6B1,1.6B1,1.6BA,1.6BA,1.6BB,1.6BB,1.6BB,1.6BB,1.6D5.654,1.6D5.654,1.6C1,",
   "1.6C1,1.6C1,1.6C1,1.6BE,1.6BE,1.6BE,1.6BE,1.6D2,1.6D2,1.6D2.654,1.6D2.654,22.6AD,1.6AD,",
   "1.6AD,1.6AD,1.6C7,1.6C7,1.6C6,1.6C6,1.6C8,1.6C8,1.6C7.674,1.6CB,1.6CB,1.6C5,1.6C5,1.6C9,",
   "1.6C9,1.6D0,1.6D0,1.6D0,1.6D0,1.649,1.649,1.64A.654.627,1.64A.654.627,1.64A.654.6D5,",
   "1.64A.654.6D5,1.64A.654.648,1.64A.654.648,1.64A.654.6C7,1.64A.654.6C7,1.64A.654.6C6,",
   "1.64A.654.6C6,1.64A.654.6C8,1.64A.654.6C8,1.64A.654.6D0,1.64A.654.6D0,1.64A.654.6D0,",
   "1.64A.654.649,1.64A.654.649,1.64A.654.649,1.6CC,1.6CC,1.6CC,1.6CC,1.64A.654.62C,",
   "1.64A.654.62D,1.64A.654.645,1.64A.654.649,1.64A.654.64A,1.628.62C,1.628.62D,1.628.62E,",
   "1.628.645,1.628.649,1.628.64A,1.62A.62C,1.62A.62D,1.62A.62E,1.62A.645,1.62A.649,1.62A.64A,",
   "1.62B.62C,1.62B.645,1.62B.649,1.62B.64A,1.62C.62D,1.62C.645,1.62D.62C,1.62D.645,1.62E.62C,",
   "1.62E.62D,1.62E.645,1.633.62C,1.633.62D,1.633.62E,1.633.645,1.635.62D,1.635.645,1.636.62C,",
   "1.636.62D,1.636.62E,1.636.645,1.637.62D,1.637.645,1.638.645,1.639.62C,1.639.645,1.63A.62C,",
   "1.63A.645,1.641.62C,1.641.62D,1.641.62E,1.641.645,1.641.649,1.641.64A,1.642.62D,1.642.645,",
   "1.642.649,1.642.64A,1.643.627,1.643.62C,1.643.62D,1.643.62E,1.643.644,1.643.645,1.643.649,",
   "1.643.64A,1.644.62C,1.644.62D,1.644.62E,1.644.645,1.644.649,1.644.64A,1.645.62C,1.645.62D,",
   "1.645.62E,1.645.645,1.645.649,1.645.64A,1.646.62C,1.646.62D,1.646.62E,1.646.645,1.646.649,",
   "1.646.64A,1.647.62C,1.647.645,1.647.649,1.647.64A,1.64A.62C,1.64A.62D,1.64A.62E,1.64A.645,",
   "1.64A.649,1.64A.64A,1.630.670,1.631.670,1.649.670,1.20.64C.651,1.20.64D.651,1.20.64E.651,",
   "1.20.64F.651,1.20.650.651,1.20.651.670,1.64A.654.631,1.64A.654.632,1.64A.654.645,",
   "1.64A.654.646,1.64A.654.649,1.64A.654.64A,1.628.631,1.628.632,1.628.645,1.628.646,1.628.649,",
   "1.628.64A,1.62A.631,1.62A.632,1.62A.645,1.62A.646,1.62A.649,1.62A.64A,1.62B.631,1.62B.632,",
   "1.62B.645,1.62B.646,1.62B.649,1.62B.64A,1.641.649,1.641.64A,1.642.649,1.642.64A,1.643.627,",
   "1.643.644,1.643.645,1.643.649,1.643.64A,1.644.645,1.644.649,1.644.64A,1.645.627,1.645.645,",
   "1.646.631,1.646.632,1.646.645,1.646.646,1.646.649,1.646.64A,1.649.670,1.64A.631,1.64A.632,",
   "1.64A.645,1.64A.646,1.64A.649,1.64A.64A,1.64A.654.62C,1.64A.654.62D,1.64A.654.62E,",
   "1.64A.654.645,1.64A.654.647,1.628.62C,1.628.62D,1.628.62E,1.628.645,1.628.647,1.62A.62C,",
   "1.62A.62D,1.62A.62E,1.62A.645,1.62A.647,1.62B.645,1.62C.62D,1.62C.645,1.62D.62C,1.62D.645,",
   "1.62E.62C,1.62E.645,1.633.62C,1.633.62D,1.633.62E,1.633.645,1.635.62D,1.635.62E,1.635.645,",
   "1.636.62C,1.636.62D,1.636.62E,1.636.645,1.637.62D,1.638.645,1.639.62C,1.639.645,1.63A.62C,",
   "1.63A.645,1.641.62C,1.641.62D,1.641.62E,1.641.645,1.642.62D,1.642.645,1.643.62C,1.643.62D,",
   "1.643.62E,1.643.644,1.643.645,1.644.62C,1.644.62D,1.644.62E,1.644.645,1.644.647,1.645.62C,",
   "1.645.62D,1.645.62E,1.645.645,1.646.62C,1.646.62D,1.646.62E,1.646.645,1.646.647,1.647.62C,",
   "1.647.645,1.647.670,1.64A.62C,1.64A.62D,1.64A.62E,1.64A.645,1.64A.647,1.64A.654.645,",
   "1.64A.654.647,1.628.645,1.628.647,1.62A.645,1.62A.647,1.62B.645,1.62B.647,1.633.645,",
   "1.633.647,1.634.645,1.634.647,1.643.644,1.643.645,1.644.645,1.646.645,1.646.647,1.64A.645,",
   "1.64A.647,1.640.64E.651,1.640.64F.651,1.640.650.651,1.637.649,1.637.64A,1.639.649,1.639.64A,",
   "1.63A.649,1.63A.64A,1.633.649,1.633.64A,1.634.649,1.634.64A,1.62D.649,1.62D.64A,1.62C.649,",
   "1.62C.64A,1.62E.649,1.62E.64A,1.635.649,1.635.64A,1.636.649,1.636.64A,1.634.62C,1.634.62D,",
   "1.634.62E,1.634.645,1.634.631,1.633.631,1.635.631,1.636.631,1.637.649,1.637.64A,1.639.649,",
   "1.639.64A,1.63A.649,1.63A.64A,1.633.649,1.633.64A,1.634.649,1.634.64A,1.62D.649,1.62D.64A,",
   "1.62C.649,1.62C.64A,1.62E.649,1.62E.64A,1.635.649,1.635.64A,1.636.649,1.636.64A,1.634.62C,",
   "1.634.62D,1.634.62E,1.634.645,1.634.631,1.633.631,1.635.631,1.636.631,1.634.62C,1.634.62D,",
   "1.634.62E,1.634.645,1.633.647,1.634.647,1.637.645,1.633.62C,1.633.62D,1.633.62E,1.634.62C,",
   "1.634.62D,1.634.62E,1.637.645,1.638.645,1.627.64B,1.627.64B,13.62A.62C.645,1.62A.62D.62C,",
   "1.62A.62D.62C,1.62A.62D.645,1.62A.62E.645,1.62A.645.62C,1.62A.645.62D,1.62A.645.62E,",
   "1.62C.645.62D,1.62C.645.62D,1.62D.645.64A,1.62D.645.649,1.633.62D.62C,1.633.62C.62D,",
   "1.633.62C.649,1.633.645.62D,1.633.645.62D,1.633.645.62C,1.633.645.645,1.633.645.645,",
   "1.635.62D.62D,1.635.62D.62D,1.635.645.645,1.634.62D.645,1.634.62D.645,1.634.62C.64A,",
   "1.634.645.62E,1.634.645.62E,1.634.645.645,1.634.645.645,1.636.62D.649,1.636.62E.645,",
   "1.636.62E.645,1.637.645.62D,1.637.645.62D,1.637.645.645,1.637.645.64A,1.639.62C.645,",
   "1.639.645.645,1.639.645.645,1.639.645.649,1.63A.645.645,1.63A.645.64A,1.63A.645.649,",
   "1.641.62E.645,1.641.62E.645,1.642.645.62D,1.642.645.645,1.644.62D.645,1.644.62D.64A,",
   "1.644.62D.649,1.644.62C.62C,1.644.62C.62C,1.644.62E.645,1.644.62E.645,1.644.645.62D,",
   "1.644.645.62D,1.645.62D.62C,1.645.62D.645,1.645.62D.64A,1.645.62C.62D,1.645.62C.645,",
   "1.645.62E.62C,1.645.62E.645,3.645.62C.62E,1.647.645.62C,1.647.645.645,1.646.62D.645,",
   "1.646.62D.649,1.646.62C.645,1.646.62C.645,1.646.62C.649,1.646.645.64A,1.646.645.649,",
   "1.64A.645.645,1.64A.645.645,1.628.62E.64A,1.62A.62C.64A,1.62A.62C.649,1.62A.62E.64A,",
   "1.62A.62E.649,1.62A.645.64A,1.62A.645.649,1.62C.645.64A,1.62C.62D.649,1.62C.645.649,",
   "1.633.62E.649,1.635.62D.64A,1.634.62D.64A,1.636.62D.64A,1.644.62C.64A,1.644.645.64A,",
   "1.64A.62D.64A,1.64A.62C.64A,1.64A.645.64A,1.645.645.64A,1.642.645.64A,1.646.62D.64A,",
   "1.642.645.62D,1.644.62D.645,1.639.645.64A,1.643.645.64A,1.646.62C.62D,1.645.62E.64A,",
   "1.644.62C.645,1.643.645.645,1.644.62C.645,1.646.62C.62D,1.62C.62D.64A,1.62D.62C.64A,",
   "1.645.62C.64A,1.641.645.64A,1.628.62D.64A,1.643.645.645,1.639.62C.645,1.635.645.645,",
   "1.633.62E.64A,1.646.62C.64A,29.635.644.6D2,1.642.644.6D2,1.627.644.644.647,",
   "1.627.643.628.631,1.645.62D.645.62F,1.635.644.639.645,1.631.633.648.644,1.639.644.64A.647,",
   "1.648.633.644.645,1.635.644.649,",
   "1.635.644.649.20.627.644.644.647.20.639.644.64A.647.20.648.633.644.645,",
   "1.62C.644.20.62C.644.627.644.647,1.631.6CC.627.644,14.2C,1.3001,1.3002,1.3A,1.3B,1.21,1.3F,",
   "1.3016,1.3017,1.2E.2E.2E,17.2E.2E,1.2014,1.2013,1.5F,1.5F,1.28,1.29,1.7B,1.7D,1.3014,1.3015,",
   "1.3010,1.3011,1.300A,1.300B,1.3008,1.3009,1.300C,1.300D,1.300E,1.300F,3.5B,1.5D,1.20.305,",
   "1.20.305,1.20.305,1.20.305,1.5F,1.5F,1.5F,1.2C,1.3001,1.2E,2.3B,1.3A,1.3F,1.21,1.2014,1.28,",
   "1.29,1.7B,1.7D,1.3014,1.3015,1.23,1.26,1.2A,1.2B,1.2D,1.3C,1.3E,1.3D,2.5C,1.24,1.25,1.40,",
   "5.20.64B,1.640.64B,1.20.64C,2.20.64D,2.20.64E,1.640.64E,1.20.64F,1.640.64F,1.20.650,",
   "1.640.650,1.20.651,1.640.651,1.20.652,1.640.652,1.621,1.627.653,1.627.653,1.627.654,",
   "1.627.654,1.648.654,1.648.654,1.627.655,1.627.655,1.64A.654,1.64A.654,1.64A.654,1.64A.654,",
   "1.627,1.627,1.628,1.628,1.628,1.628,1.629,1.629,1.62A,1.62A,1.62A,1.62A,1.62B,1.62B,1.62B,",
   "1.62B,1.62C,1.62C,1.62C,1.62C,1.62D,1.62D,1.62D,1.62D,1.62E,1.62E,1.62E,1.62E,1.62F,1.62F,",
   "1.630,1.630,1.631,1.631,1.632,1.632,1.633,1.633,1.633,1.633,1.634,1.634,1.634,1.634,1.635,",
   "1.635,1.635,1.635,1.636,1.636,1.636,1.636,1.637,1.637,1.637,1.637,1.638,1.638,1.638,1.638,",
   "1.639,1.639,1.639,1.639,1.63A,1.63A,1.63A,1.63A,1.641,1.641,1.641,1.641,1.642,1.642,1.642,",
   "1.642,1.643,1.643,1.643,1.643,1.644,1.644,1.644,1.644,1.645,1.645,1.645,1.645,1.646,1.646,",
   "1.646,1.646,1.647,1.647,1.647,1.647,1.648,1.648,1.649,1.649,1.64A,1.64A,1.64A,1.64A,",
   "1.644.627.653,1.644.627.653,1.644.627.654,1.644.627.654,1.644.627.655,1.644.627.655,",
   "1.644.627,1.644.627,5.21,1.22,1.23,1.24,1.25,1.26,1.27,1.28,1.29,1.2A,1.2B,1.2C,1.2D,1.2E,",
   "1.2F,1.30,1.31,1.32,1.33,1.34,1.35,1.36,1.37,1.38,1.39,1.3A,1.3B,1.3C,1.3D,1.3E,1.3F,1.40,",
   "1.41,1.42,1.43,1.44,1.45,1.46,1.47,1.48,1.49,1.4A,1.4B,1.4C,1.4D,1.4E,1.4F,1.50,1.51,1.52,",
   "1.53,1.54,1.55,1.56,1.57,1.58,1.59,1.5A,1.5B,1.5C,1.5D,1.5E,1.5F,1.60,1.61,1.62,1.63,1.64,",
   "1.65,1.66,1.67,1.68,1.69,1.6A,1.6B,1.6C,1.6D,1.6E,1.6F,1.70,1.71,1.72,1.73,1.74,1.75,1.76,",
   "1.77,1.78,1.79,1.7A,1.7B,1.7C,1.7D,1.7E,1.2985,1.2986,1.3002,1.300C,1.300D,1.3001,1.30FB,",
   "1.30F2,1.30A1,1.30A3,1.30A5,1.30A7,1.30A9,1.30E3,1.30E5,1.30E7,1.30C3,1.30FC,1.30A2,1.30A4,",
   "1.30A6,1.30A8,1.30AA,1.30AB,1.30AD,1.30AF,1.30B1,1.30B3,1.30B5,1.30B7,1.30B9,1.30BB,1.30BD,",
   "1.30BF,1.30C1,1.30C4,1.30C6,1.30C8,1.30CA,1.30CB,1.30CC,1.30CD,1.30CE,1.30CF,1.30D2,1.30D5,",
   "1.30D8,1.30DB,1.30DE,1.30DF,1.30E0,1.30E1,1.30E2,1.30E4,1.30E6,1.30E8,1.30E9,1.30EA,1.30EB,",
   "1.30EC,1.30ED,1.30EF,1.30F3,1.3099,1.309A,1.1160,1.1100,1.1101,1.11AA,1.1102,1.11AC,1.11AD,",
   "1.1103,1.1104,1.1105,1.11B0,1.11B1,1.11B2,1.11B3,1.11B4,1.11B5,1.111A,1.1106,1.1107,1.1108,",
   "1.1121,1.1109,1.110A,1.110B,1.110C,1.110D,1.110E,1.110F,1.1110,1.1111,1.1112,4.1161,1.1162,",
   "1.1163,1.1164,1.1165,1.1166,3.1167,1.1168,1.1169,1.116A,1.116B,1.116C,3.116D,1.116E,1.116F,",
   "1.1170,1.1171,1.1172,3.1173,1.1174,1.1175,4.A2,1.A3,1.AC,1.20.304,1.A6,1.A5,1.20A9,2.2502,",
   "1.2190,1.2191,1.2192,1.2193,1.25A0,1.25CB,793.2D0,1.2D1,1.E6,1.299,1.253,2.2A3,1.AB66,1.2A5,",
   "1.2A4,1.256,1.257,1.1D91,1.258,1.25E,1.2A9,1.264,1.262,1.260,1.29B,1.127,1.29C,1.267,1.284,",
   "1.2AA,1.2AB,1.26C,1.1DF04,1.A78E,1.26E,1.1DF05,1.28E,1.1DF06,1.F8,1.276,1.277,1.71,1.27A,",
   "1.1DF08,1.27D,1.27E,1.280,1.2A8,1.2A6,1.AB67,1.2A7,1.288,1.2C71,2.28F,1.2A1,1.2A2,1.298,",
   "1.1C0,1.1C1,1.1C2,1.1DF0A,1.1DF1E,8E0.11099.110BA,2.1109B.110BA,F.110A5.110BA,",
   "83.11131.11127,1.11132.11127,21C.11347.1133E,1.11347.11357,16F.114B9.114BA,1.114B9.114B0,",
   "2.114B9.114BD,FC.115B8.115AF,1.115B9.115AF,37D.11935.11930,B826.1D157.1D165,1.1D158.1D165,",
   "1.1D158.1D165.1D16E,1.1D158.1D165.1D16F,1.1D158.1D165.1D170,1.1D158.1D165.1D171,",
   "1.1D158.1D165.1D172,57.1D1B9.1D165,1.1D1BA.1D165,1.1D1B9.1D165.1D16E,1.1D1BA.1D165.1D16E,",
   "1.1D1B9.1D165.1D16F,1.1D1BA.1D165.1D16F,240.41,1.42,1.43,1.44,1.45,1.46,1.47,1.48,1.49,1.4A,",
   "1.4B,1.4C,1.4D,1.4E,1.4F,1.50,1.51,1.52,1.53,1.54,1.55,1.56,1.57,1.58,1.59,1.5A,1.61,1.62,",
   "1.63,1.64,1.65,1.66,1.67,1.68,1.69,1.6A,1.6B,1.6C,1.6D,1.6E,1.6F,1.70,1.71,1.72,1.73,1.74,",
   "1.75,1.76,1.77,1.78,1.79,1.7A,1.41,1.42,1.43,1.44,1.45,1.46,1.47,1.48,1.49,1.4A,1.4B,1.4C,",
   "1.4D,1.4E,1.4F,1.50,1.51,1.52,1.53,1.54,1.55,1.56,1.57,1.58,1.59,1.5A,1.61,1.62,1.63,1.64,",
   "1.65,1.66,1.67,2.69,1.6A,1.6B,1.6C,1.6D,1.6E,1.6F,1.70,1.71,1.72,1.73,1.74,1.75,1.76,1.77,",
   "1.78,1.79,1.7A,1.41,1.42,1.43,1.44,1.45,1.46,1.47,1.48,1.49,1.4A,1.4B,1.4C,1.4D,1.4E,1.4F,",
   "1.50,1.51,1.52,1.53,1.54,1.55,1.56,1.57,1.58,1.59,1.5A,1.61,1.62,1.63,1.64,1.65,1.66,1.67,",
   "1.68,1.69,1.6A,1.6B,1.6C,1.6D,1.6E,1.6F,1.70,1.71,1.72,1.73,1.74,1.75,1.76,1.77,1.78,1.79,",
   "1.7A,1.41,2.43,1.44,3.47,3.4A,1.4B,3.4E,1.4F,1.50,1.51,2.53,1.54,1.55,1.56,1.57,1.58,1.59,",
   "1.5A,1.61,1.62,1.63,1.64,2.66,2.68,1.69,1.6A,1.6B,1.6C,1.6D,1.6E,2.70,1.71,1.72,1.73,1.74,",
   "1.75,1.76,1.77,1.78,1.79,1.7A,1.41,1.42,1.43,1.44,1.45,1.46,1.47,1.48,1.49,1.4A,1.4B,1.4C,",
   "1.4D,1.4E,1.4F,1.50,1.51,1.52,1.53,1.54,1.55,1.56,1.57,1.58,1.59,1.5A,1.61,1.62,1.63,1.64,",
   "1.65,1.66,1.67,1.68,1.69,1.6A,1.6B,1.6C,1.6D,1.6E,1.6F,1.70,1.71,1.72,1.73,1.74,1.75,1.76,",
   "1.77,1.78,1.79,1.7A,1.41,1.42,2.44,1.45,1.46,1.47,3.4A,1.4B,1.4C,1.4D,1.4E,1.4F,1.50,1.51,",
   "2.53,1.54,1.55,1.56,1.57,1.58,1.59,2.61,1.62,1.63,1.64,1.65,1.66,1.67,1.68,1.69,1.6A,1.6B,",
   "1.6C,1.6D,1.6E,1.6F,1.70,1.71,1.72,1.73,1.74,1.75,1.76,1.77,1.78,1.79,1.7A,1.41,1.42,2.44,",
   "1.45,1.46,1.47,2.49,1.4A,1.4B,1.4C,1.4D,2.4F,4.53,1.54,1.55,1.56,1.57,1.58,1.59,2.61,1.62,",
   "1.63,1.64,1.65,1.66,1.67,1.68,1.69,1.6A,1.6B,1.6C,1.6D,1.6E,1.6F,1.70,1.71,1.72,1.73,1.74,",
   "1.75,1.76,1.77,1.78,1.79,1.7A,1.41,1.42,1.43,1.44,1.45,1.46,1.47,1.48,1.49,1.4A,1.4B,1.4C,",
   "1.4D,1.4E,1.4F,1.50,1.51,1.52,1.53,1.54,1.55,1.56,1.57,1.58,1.59,1.5A,1.61,1.62,1.63,1.64,",
   "1.65,1.66,1.67,1.68,1.69,1.6A,1.6B,1.6C,1.6D,1.6E,1.6F,1.70,1.71,1.72,1.73,1.74,1.75,1.76,",
   "1.77,1.78,1.79,1.7A,1.41,1.42,1.43,1.44,1.45,1.46,1.47,1.48,1.49,1.4A,1.4B,1.4C,1.4D,1.4E,",
   "1.4F,1.50,1.51,1.52,1.53,1.54,1.55,1.56,1.57,1.58,1.59,1.5A,1.61,1.62,1.63,1.64,1.65,1.66,",
   "1.67,1.68,1.69,1.6A,1.6B,1.6C,1.6D,1.6E,1.6F,1.70,1.71,1.72,1.73,1.74,1.75,1.76,1.77,1.78,",
   "1.79,1.7A,1.41,1.42,1.43,1.44,1.45,1.46,1.47,1.48,1.49,1.4A,1.4B,1.4C,1.4D,1.4E,1.4F,1.50,",
   "1.51,1.52,1.53,1.54,1.55,1.56,1.57,1.58,1.59,1.5A,1.61,1.62,1.63,1.64,1.65,1.66,1.67,1.68,",
   "1.69,1.6A,1.6B,1.6C,1.6D,1.6E,1.6F,1.70,1.71,1.72,1.73,1.74,1.75,1.76,1.77,1.78,1.79,1.7A,",
   "1.41,1.42,1.43,1.44,1.45,1.46,1.47,1.48,1.49,1.4A,1.4B,1.4C,1.4D,1.4E,1.4F,1.50,1.51,1.52,",
   "1.53,1.54,1.55,1.56,1.57,1.58,1.59,1.5A,1.61,1.62,1.63,1.64,1.65,1.66,1.67,1.68,1.69,1.6A,",
   "1.6B,1.6C,1.6D,1.6E,1.6F,1.70,1.71,1.72,1.73,1.74,1.75,1.76,1.77,1.78,1.79,1.7A,1.41,1.42,",
   "1.43,1.44,1.45,1.46,1.47,1.48,1.49,1.4A,1.4B,1.4C,1.4D,1.4E,1.4F,1.50,1.51,1.52,1.53,1.54,",
   "1.55,1.56,1.57,1.58,1.59,1.5A,1.61,1.62,1.63,1.64,1.65,1.66,1.67,1.68,1.69,1.6A,1.6B,1.6C,",
   "1.6D,1.6E,1.6F,1.70,1.71,1.72,1.73,1.74,1.75,1.76,1.77,1.78,1.79,1.7A,1.41,1.42,1.43,1.44,",
   "1.45,1.46,1.47,1.48,1.49,1.4A,1.4B,1.4C,1.4D,1.4E,1.4F,1.50,1.51,1.52,1.53,1.54,1.55,1.56,",
   "1.57,1.58,1.59,1.5A,1.61,1.62,1.63,1.64,1.65,1.66,1.67,1.68,1.69,1.6A,1.6B,1.6C,1.6D,1.6E,",
   "1.6F,1.70,1.71,1.72,1.73,1.74,1.75,1.76,1.77,1.78,1.79,1.7A,1.131,1.237,3.391,1.392,1.393,",
   "1.394,1.395,1.396,1.397,1.398,1.399,1.39A,1.39B,1.39C,1.39D,1.39E,1.39F,1.3A0,1.3A1,1.398,",
   "1.3A3,1.3A4,1.3A5,1.3A6,1.3A7,1.3A8,1.3A9,1.2207,1.3B1,1.3B2,1.3B3,1.3B4,1.3B5,1.3B6,1.3B7,",
   "1.3B8,1.3B9,1.3BA,1.3BB,1.3BC,1.3BD,1.3BE,1.3BF,1.3C0,1.3C1,1.3C2,1.3C3,1.3C4,1.3C5,1.3C6,",
   "1.3C7,1.3C8,1.3C9,1.2202,1.3B5,1.3B8,1.3BA,1.3C6,1.3C1,1.3C0,1.391,1.392,1.393,1.394,1.395,",
   "1.396,1.397,1.398,1.399,1.39A,1.39B,1.39C,1.39D,1.39E,1.39F,1.3A0,1.3A1,1.398,1.3A3,1.3A4,",
   "1.3A5,1.3A6,1.3A7,1.3A8,1.3A9,1.2207,1.3B1,1.3B2,1.3B3,1.3B4,1.3B5,1.3B6,1.3B7,1.3B8,1.3B9,",
   "1.3BA,1.3BB,1.3BC,1.3BD,1.3BE,1.3BF,1.3C0,1.3C1,1.3C2,1.3C3,1.3C4,1.3C5,1.3C6,1.3C7,1.3C8,",
   "1.3C9,1.2202,1.3B5,1.3B8,1.3BA,1.3C6,1.3C1,1.3C0,1.391,1.392,1.393,1.394,1.395,1.396,1.397,",
   "1.398,1.399,1.39A,1.39B,1.39C,1.39D,1.39E,1.39F,1.3A0,1.3A1,1.398,1.3A3,1.3A4,1.3A5,1.3A6,",
   "1.3A7,1.3A8,1.3A9,1.2207,1.3B1,1.3B2,1.3B3,1.3B4,1.3B5,1.3B6,1.3B7,1.3B8,1.3B9,1.3BA,1.3BB,",
   "1.3BC,1.3BD,1.3BE,1.3BF,1.3C0,1.3C1,1.3C2,1.3C3,1.3C4,1.3C5,1.3C6,1.3C7,1.3C8,1.3C9,1.2202,",
   "1.3B5,1.3B8,1.3BA,1.3C6,1.3C1,1.3C0,1.391,1.392,1.393,1.394,1.395,1.396,1.397,1.398,1.399,",
   "1.39A,1.39B,1.39C,1.39D,1.39E,1.39F,1.3A0,1.3A1,1.398,1.3A3,1.3A4,1.3A5,1.3A6,1.3A7,1.3A8,",
   "1.3A9,1.2207,1.3B1,1.3B2,1.3B3,1.3B4,1.3B5,1.3B6,1.3B7,1.3B8,1.3B9,1.3BA,1.3BB,1.3BC,1.3BD,",
   "1.3BE,1.3BF,1.3C0,1.3C1,1.3C2,1.3C3,1.3C4,1.3C5,1.3C6,1.3C7,1.3C8,1.3C9,1.2202,1.3B5,1.3B8,",
   "1.3BA,1.3C6,1.3C1,1.3C0,1.391,1.392,1.393,1.394,1.395,1.396,1.397,1.398,1.399,1.39A,1.39B,",
   "1.39C,1.39D,1.39E,1.39F,1.3A0,1.3A1,1.398,1.3A3,1.3A4,1.3A5,1.3A6,1.3A7,1.3A8,1.3A9,1.2207,",
   "1.3B1,1.3B2,1.3B3,1.3B4,1.3B5,1.3B6,1.3B7,1.3B8,1.3B9,1.3BA,1.3BB,1.3BC,1.3BD,1.3BE,1.3BF,",
   "1.3C0,1.3C1,1.3C2,1.3C3,1.3C4,1.3C5,1.3C6,1.3C7,1.3C8,1.3C9,1.2202,1.3B5,1.3B8,1.3BA,1.3C6,",
   "1.3C1,1.3C0,1.3DC,1.3DD,3.30,1.31,1.32,1.33,1.34,1.35,1.36,1.37,1.38,1.39,1.30,1.31,1.32,",
   "1.33,1.34,1.35,1.36,1.37,1.38,1.39,1.30,1.31,1.32,1.33,1.34,1.35,1.36,1.37,1.38,1.39,1.30,",
   "1.31,1.32,1.33,1.34,1.35,1.36,1.37,1.38,1.39,1.30,1.31,1.32,1.33,1.34,1.35,1.36,1.37,1.38,",
   "1.39,1601.627,1.628,1.62C,1.62F,2.648,1.632,1.62D,1.637,1.64A,1.643,1.644,1.645,1.646,1.633,",
   "1.639,1.641,1.635,1.642,1.631,1.634,1.62A,1.62B,1.62E,1.630,1.636,1.638,1.63A,1.66E,1.6BA,",
   "1.6A1,1.66F,2.628,1.62C,2.647,3.62D,2.64A,1.643,1.644,1.645,1.646,1.633,1.639,1.641,1.635,",
   "1.642,2.634,1.62A,1.62B,1.62E,2.636,2.63A,7.62C,5.62D,2.64A,2.644,2.646,1.633,1.639,2.635,",
   "1.642,2.634,3.62E,2.636,2.63A,2.6BA,2.66F,2.628,1.62C,2.647,3.62D,1.637,1.64A,1.643,2.645,",
   "1.646,1.633,1.639,1.641,1.635,1.642,2.634,1.62A,1.62B,1.62E,2.636,1.638,1.63A,1.66E,2.6A1,",
   "2.627,1.628,1.62C,1.62F,1.647,1.648,1.632,1.62D,1.637,1.64A,2.644,1.645,1.646,1.633,1.639,",
   "1.641,1.635,1.642,1.631,1.634,1.62A,1.62B,1.62E,1.630,1.636,1.638,1.63A,6.628,1.62C,1.62F,",
   "2.648,1.632,1.62D,1.637,1.64A,2.644,1.645,1.646,1.633,1.639,1.641,1.635,1.642,1.631,1.634,",
   "1.62A,1.62B,1.62E,1.630,1.636,1.638,1.63A,245.30.2E,1.30.2C,1.31.2C,1.32.2C,1.33.2C,1.34.2C,",
   "1.35.2C,1.36.2C,1.37.2C,1.38.2C,1.39.2C,6.28.41.29,1.28.42.29,1.28.43.29,1.28.44.29,",
   "1.28.45.29,1.28.46.29,1.28.47.29,1.28.48.29,1.28.49.29,1.28.4A.29,1.28.4B.29,1.28.4C.29,",
   "1.28.4D.29,1.28.4E.29,1.28.4F.29,1.28.50.29,1.28.51.29,1.28.52.29,1.28.53.29,1.28.54.29,",
   "1.28.55.29,1.28.56.29,1.28.57.29,1.28.58.29,1.28.59.29,1.28.5A.29,1.3014.53.3015,1.43,1.52,",
   "1.43.44,1.57.5A,2.41,1.42,1.43,1.44,1.45,1.46,1.47,1.48,1.49,1.4A,1.4B,1.4C,1.4D,1.4E,1.4F,",
   "1.50,1.51,1.52,1.53,1.54,1.55,1.56,1.57,1.58,1.59,1.5A,1.48.56,1.4D.56,1.53.44,1.53.53,",
   "1.50.50.56,1.57.43,1B.4D.43,1.4D.44,1.4D.52,24.44.4A,70.307B.304B,1.30B3.30B3,1.30B5,E.624B,",
   "1.5B57,1.53CC,1.30C6.3099,1.4E8C,1.591A,1.89E3,1.5929,1.4EA4,1.6620,1.7121,1.6599,1.524D,",
   "1.5F8C,1.518D,1.65B0,1.521D,1.7D42,1.751F,1.8CA9,1.58F0,1.5439,1.6F14,1.6295,1.6355,1.4E00,",
   "1.4E09,1.904A,1.5DE6,1.4E2D,1.53F3,1.6307,1.8D70,1.6253,1.7981,1.7A7A,1.5408,1.6E80,1.6709,",
   "1.6708,1.7533,1.5272,1.55B6,1.914D,5.3014.672C.3015,1.3014.4E09.3015,1.3014.4E8C.3015,",
   "1.3014.5B89.3015,1.3014.70B9.3015,1.3014.6253.3015,1.3014.76D7.3015,1.3014.52DD.3015,",
   "1.3014.6557.3015,8.5F97,1.53EF,99F.30,1.31,1.32,1.33,1.34,1.35,1.36,1.37,1.38,1.39,",
   "FC07.4E3D,1.4E38,1.4E41,1.20122,1.4F60,1.4FAE,1.4FBB,1.5002,1.507A,1.5099,1.50E7,1.50CF,",
   "1.349E,1.2063A,1.514D,1.5154,1.5164,1.5177,1.2051C,1.34B9,1.5167,1.518D,1.2054B,1.5197,",
   "1.51A4,1.4ECC,1.51AC,1.51B5,1.291DF,1.51F5,1.5203,1.34DF,1.523B,1.5246,1.5272,1.5277,1.3515,",
   "1.52C7,1.52C9,1.52E4,1.52FA,1.5305,1.5306,1.5317,1.5349,1.5351,1.535A,1.5373,1.537D,1.537F,",
   "1.537F,1.537F,1.20A2C,1.7070,1.53CA,1.53DF,1.20B63,1.53EB,1.53F1,1.5406,1.549E,1.5438,",
   "1.5448,1.5468,1.54A2,1.54F6,1.5510,1.5553,1.5563,1.5584,1.5584,1.5599,1.55AB,1.55B3,1.55C2,",
   "1.5716,1.5606,1.5717,1.5651,1.5674,1.5207,1.58EE,1.57CE,1.57F4,1.580D,1.578B,1.5832,1.5831,",
   "1.58AC,1.214E4,1.58F2,1.58F7,1.5906,1.591A,1.5922,1.5962,1.216A8,1.216EA,1.59EC,1.5A1B,",
   "1.5A27,1.59D8,1.5A66,1.36EE,1.36FC,1.5B08,1.5B3E,1.5B3E,1.219C8,1.5BC3,1.5BD8,1.5BE7,1.5BF3,",
   "1.21B18,1.5BFF,1.5C06,1.5F53,1.5C22,1.3781,1.5C60,1.5C6E,1.5CC0,1.5C8D,1.21DE4,1.5D43,",
   "1.21DE6,1.5D6E,1.5D6B,1.5D7C,1.5DE1,1.5DE2,1.382F,1.5DFD,1.5E28,1.5E3D,1.5E69,1.3862,",
   "1.22183,1.387C,1.5EB0,1.5EB3,1.5EB6,1.5ECA,1.2A392,1.5EFE,1.22331,1.22331,1.8201,1.5F22,",
   "1.5F22,1.38C7,1.232B8,1.261DA,1.5F62,1.5F6B,1.38E3,1.5F9A,1.5FCD,1.5FD7,1.5FF9,1.6081,",
   "1.393A,1.391C,1.6094,1.226D4,1.60C7,1.6148,1.614C,1.614E,1.614C,1.617A,1.618E,1.61B2,1.61A4,",
   "1.61AF,1.61DE,1.61F2,1.61F6,1.6210,1.621B,1.625D,1.62B1,1.62D4,1.6350,1.22B0C,1.633D,1.62FC,",
   "1.6368,1.6383,1.63E4,1.22BF1,1.6422,1.63C5,1.63A9,1.3A2E,1.6469,1.647E,1.649D,1.6477,1.3A6C,",
   "1.654F,1.656C,1.2300A,1.65E3,1.66F8,1.6649,1.3B19,1.6691,1.3B08,1.3AE4,1.5192,1.5195,1.6700,",
   "1.669C,1.80AD,1.43D9,1.6717,1.671B,1.6721,1.675E,1.6753,1.233C3,1.3B49,1.67FA,1.6785,1.6852,",
   "1.6885,1.2346D,1.688E,1.681F,1.6914,1.3B9D,1.6942,1.69A3,1.69EA,1.6AA8,1.236A3,1.6ADB,",
   "1.3C18,1.6B21,1.238A7,1.6B54,1.3C4E,1.6B72,1.6B9F,1.6BBA,1.6BBB,1.23A8D,1.21D0B,1.23AFA,",
   "1.6C4E,1.23CBC,1.6CBF,1.6CCD,1.6C67,1.6D16,1.6D3E,1.6D77,1.6D41,1.6D69,1.6D78,1.6D85,",
   "1.23D1E,1.6D34,1.6E2F,1.6E6E,1.3D33,1.6ECB,1.6EC7,1.23ED1,1.6DF9,1.6F6E,1.23F5E,1.23F8E,",
   "1.6FC6,1.7039,1.701E,1.701B,1.3D96,1.704A,1.707D,1.7077,1.70AD,1.20525,1.7145,1.24263,",
   "1.719C,1.243AB,1.7228,1.7235,1.7250,1.24608,1.7280,1.7295,1.24735,1.24814,1.737A,1.738B,",
   "1.3EAC,1.73A5,1.3EB8,1.3EB8,1.7447,1.745C,1.7471,1.7485,1.74CA,1.3F1B,1.7524,1.24C36,1.753E,",
   "1.24C92,1.7570,1.2219F,1.7610,1.24FA1,1.24FB8,1.25044,1.3FFC,1.4008,1.76F4,1.250F3,1.250F2,",
   "1.25119,1.25133,1.771E,1.771F,1.771F,1.774A,1.4039,1.778B,1.4046,1.4096,1.2541D,1.784E,",
   "1.788C,1.78CC,1.40E3,1.25626,1.7956,1.2569A,1.256C5,1.798F,1.79EB,1.412F,1.7A40,1.7A4A,",
   "1.7A4F,1.2597C,1.25AA7,1.25AA7,1.7AEE,1.4202,1.25BAB,1.7BC6,1.7BC9,1.4227,1.25C80,1.7CD2,",
   "1.42A0,1.7CE8,1.7CE3,1.7D00,1.25F86,1.7D63,1.4301,1.7DC7,1.7E02,1.7E45,1.4334,1.26228,",
   "1.26247,1.4359,1.262D9,1.7F7A,1.2633E,1.7F95,1.7FFA,1.8005,1.264DA,1.26523,1.8060,1.265A8,",
   "1.8070,1.2335F,1.43D5,1.80B2,1.8103,1.440B,1.813E,1.5AB5,1.267A7,1.267B5,1.23393,1.2339C,",
   "1.8201,1.8204,1.8F9E,1.446B,1.8291,1.828B,1.829D,1.52B3,1.82B1,1.82B3,1.82BD,1.82E6,1.26B3C,",
   "1.82E5,1.831D,1.8363,1.83AD,1.8323,1.83BD,1.83E7,1.8457,1.8353,1.83CA,1.83CC,1.83DC,1.26C36,",
   "1.26D6B,1.26CD5,1.452B,1.84F1,1.84F3,1.8516,1.273CA,1.8564,1.26F2C,1.455D,1.4561,1.26FB1,",
   "1.270D2,1.456B,1.8650,1.865C,1.8667,1.8669,1.86A9,1.8688,1.870E,1.86E2,1.8779,1.8728,1.876B,",
   "1.8786,1.45D7,1.87E1,1.8801,1.45F9,1.8860,1.8863,1.27667,1.88D7,1.88DE,1.4635,1.88FA,1.34BB,",
   "1.278AE,1.27966,1.46BE,1.46C7,1.8AA0,1.8AED,1.8B8A,1.8C55,1.27CA8,1.8CAB,1.8CC1,1.8D1B,",
   "1.8D77,1.27F2F,1.20804,1.8DCB,1.8DBC,1.8DF0,1.208DE,1.8ED4,1.8F38,1.285D2,1.285ED,1.9094,",
   "1.90F1,1.9111,1.2872E,1.911B,1.9238,1.92D7,1.92D8,1.927C,1.93F9,1.9415,1.28BFA,1.958B,",
   "1.4995,1.95B7,1.28D77,1.49E6,1.96C3,1.5DB2,1.9723,1.29145,1.2921A,1.4A6E,1.4A76,1.97E0,",
   "1.2940A,1.4AB2,1.29496,1.980B,1.980B,1.9829,1.295B6,1.98E2,1.4B33,1.9929,1.99A7,1.99C2,",
   "1.99FE,1.4BCE,1.29B30,1.9B12,1.9C40,1.9CFD,1.4CCE,1.4CED,1.9D67,1.2A0CE,1.4CF8,1.2A105,",
   "1.2A20E,1.2A291,1.9EBB,1.4D56,1.9EF9,1.9EFE,1.9F05,1.9F0F,1.9F16,1.9F3B,1.2A600,"]

/-- Each entry is the first and the last character of a range and their combining class, which is not
zero. -/
def combiningClassRows : List String :=
  ["300.314.E6,315.315.E8,316.319.DC,31A.31A.E8,31B.31B.D8,31C.320.DC,321.322.CA,323.326.DC,",
   "327.328.CA,329.333.DC,334.338.1,339.33C.DC,33D.344.E6,345.345.F0,346.346.E6,347.349.DC,",
   "34A.34C.E6,34D.34E.DC,350.352.E6,353.356.DC,357.357.E6,358.358.E8,359.35A.DC,35B.35B.E6,",
   "35C.35C.E9,35D.35E.EA,35F.35F.E9,360.361.EA,362.362.E9,363.36F.E6,483.487.E6,591.591.DC,",
   "592.595.E6,596.596.DC,597.599.E6,59A.59A.DE,59B.59B.DC,59C.5A1.E6,5A2.5A7.DC,5A8.5A9.E6,",
   "5AA.5AA.DC,5AB.5AC.E6,5AD.5AD.DE,5AE.5AE.E4,5AF.5AF.E6,5B0.5B0.A,5B1.5B1.B,5B2.5B2.C,",
   "5B3.5B3.D,5B4.5B4.E,5B5.5B5.F,5B6.5B6.10,5B7.5B7.11,5B8.5B8.12,5B9.5BA.13,5BB.5BB.14,",
   "5BC.5BC.15,5BD.5BD.16,5BF.5BF.17,5C1.5C1.18,5C2.5C2.19,5C4.5C4.E6,5C5.5C5.DC,5C7.5C7.12,",
   "610.617.E6,618.618.1E,619.619.1F,61A.61A.20,64B.64B.1B,64C.64C.1C,64D.64D.1D,64E.64E.1E,",
   "64F.64F.1F,650.650.20,651.651.21,652.652.22,653.654.E6,655.656.DC,657.65B.E6,65C.65C.DC,",
   "65D.65E.E6,65F.65F.DC,670.670.23,6D6.6DC.E6,6DF.6E2.E6,6E3.6E3.DC,6E4.6E4.E6,6E7.6E8.E6,",
   "6EA.6EA.DC,6EB.6EC.E6,6ED.6ED.DC,711.711.24,730.730.E6,731.731.DC,732.733.E6,734.734.DC,",
   "735.736.E6,737.739.DC,73A.73A.E6,73B.73C.DC,73D.73D.E6,73E.73E.DC,73F.741.E6,742.742.DC,",
   "743.743.E6,744.744.DC,745.745.E6,746.746.DC,747.747.E6,748.748.DC,749.74A.E6,7EB.7F1.E6,",
   "7F2.7F2.DC,7F3.7F3.E6,7FD.7FD.DC,816.819.E6,81B.823.E6,825.827.E6,829.82D.E6,859.85B.DC,",
   "898.898.E6,899.89B.DC,89C.89F.E6,8CA.8CE.E6,8CF.8D3.DC,8D4.8E1.E6,8E3.8E3.DC,8E4.8E5.E6,",
   "8E6.8E6.DC,8E7.8E8.E6,8E9.8E9.DC,8EA.8EC.E6,8ED.8EF.DC,8F0.8F0.1B,8F1.8F1.1C,8F2.8F2.1D,",
   "8F3.8F5.E6,8F6.8F6.DC,8F7.8F8.E6,8F9.8FA.DC,8FB.8FF.E6,93C.93C.7,94D.94D.9,951.951.E6,",
   "952.952.DC,953.954.E6,9BC.9BC.7,9CD.9CD.9,9FE.9FE.E6,A3C.A3C.7,A4D.A4D.9,ABC.ABC.7,",
   "ACD.ACD.9,B3C.B3C.7,B4D.B4D.9,BCD.BCD.9,C3C.C3C.7,C4D.C4D.9,C55.C55.54,C56.C56.5B,CBC.CBC.7,",
   "CCD.CCD.9,D3B.D3C.9,D4D.D4D.9,DCA.DCA.9,E38.E39.67,E3A.E3A.9,E48.E4B.6B,EB8.EB9.76,",
   "EBA.EBA.9,EC8.ECB.7A,F18.F19.DC,F35.F35.DC,F37.F37.DC,F39.F39.D8,F71.F71.81,F72.F72.82,",
   "F74.F74.84,F7A.F7D.82,F80.F80.82,F82.F83.E6,F84.F84.9,F86.F87.E6,FC6.FC6.DC,1037.1037.7,",
   "1039.103A.9,108D.108D.DC,135D.135F.E6,1714.1715.9,1734.1734.9,17D2.17D2.9,17DD.17DD.E6,",
   "18A9.18A9.E4,1939.1939.DE,193A.193A.E6,193B.193B.DC,1A17.1A17.E6,1A18.1A18.DC,1A60.1A60.9,",
   "1A75.1A7C.E6,1A7F.1A7F.DC,1AB0.1AB4.E6,1AB5.1ABA.DC,1ABB.1ABC.E6,1ABD.1ABD.DC,1ABF.1AC0.DC,",
   "1AC1.1AC2.E6,1AC3.1AC4.DC,1AC5.1AC9.E6,1ACA.1ACA.DC,1ACB.1ACE.E6,1B34.1B34.7,1B44.1B44.9,",
   "1B6B.1B6B.E6,1B6C.1B6C.DC,1B6D.1B73.E6,1BAA.1BAB.9,1BE6.1BE6.7,1BF2.1BF3.9,1C37.1C37.7,",
   "1CD0.1CD2.E6,1CD4.1CD4.1,1CD5.1CD9.DC,1CDA.1CDB.E6,1CDC.1CDF.DC,1CE0.1CE0.E6,1CE2.1CE8.1,",
   "1CED.1CED.DC,1CF4.1CF4.E6,1CF8.1CF9.E6,1DC0.1DC1.E6,1DC2.1DC2.DC,1DC3.1DC9.E6,1DCA.1DCA.DC,",
   "1DCB.1DCC.E6,1DCD.1DCD.EA,1DCE.1DCE.D6,1DCF.1DCF.DC,1DD0.1DD0.CA,1DD1.1DF5.E6,1DF6.1DF6.E8,",
   "1DF7.1DF8.E4,1DF9.1DF9.DC,1DFA.1DFA.DA,1DFB.1DFB.E6,1DFC.1DFC.E9,1DFD.1DFD.DC,1DFE.1DFE.E6,",
   "1DFF.1DFF.DC,20D0.20D1.E6,20D2.20D3.1,20D4.20D7.E6,20D8.20DA.1,20DB.20DC.E6,20E1.20E1.E6,",
   "20E5.20E6.1,20E7.20E7.E6,20E8.20E8.DC,20E9.20E9.E6,20EA.20EB.1,20EC.20EF.DC,20F0.20F0.E6,",
   "2CEF.2CF1.E6,2D7F.2D7F.9,2DE0.2DFF.E6,302A.302A.DA,302B.302B.E4,302C.302C.E8,302D.302D.DE,",
   "302E.302F.E0,3099.309A.8,A66F.A66F.E6,A674.A67D.E6,A69E.A69F.E6,A6F0.A6F1.E6,A806.A806.9,",
   "A82C.A82C.9,A8C4.A8C4.9,A8E0.A8F1.E6,A92B.A92D.DC,A953.A953.9,A9B3.A9B3.7,A9C0.A9C0.9,",
   "AAB0.AAB0.E6,AAB2.AAB3.E6,AAB4.AAB4.DC,AAB7.AAB8.E6,AABE.AABF.E6,AAC1.AAC1.E6,AAF6.AAF6.9,",
   "ABED.ABED.9,FB1E.FB1E.1A,FE20.FE26.E6,FE27.FE2D.DC,FE2E.FE2F.E6,101FD.101FD.DC,",
   "102E0.102E0.DC,10376.1037A.E6,10A0D.10A0D.DC,10A0F.10A0F.E6,10A38.10A38.E6,10A39.10A39.1,",
   "10A3A.10A3A.DC,10A3F.10A3F.9,10AE5.10AE5.E6,10AE6.10AE6.DC,10D24.10D27.E6,10EAB.10EAC.E6,",
   "10F46.10F47.DC,10F48.10F4A.E6,10F4B.10F4B.DC,10F4C.10F4C.E6,10F4D.10F50.DC,10F82.10F82.E6,",
   "10F83.10F83.DC,10F84.10F84.E6,10F85.10F85.DC,11046.11046.9,11070.11070.9,1107F.1107F.9,",
   "110B9.110B9.9,110BA.110BA.7,11100.11102.E6,11133.11134.9,11173.11173.7,111C0.111C0.9,",
   "111CA.111CA.7,11235.11235.9,11236.11236.7,112E9.112E9.7,112EA.112EA.9,1133B.1133C.7,",
   "1134D.1134D.9,11366.1136C.E6,11370.11374.E6,11442.11442.9,11446.11446.7,1145E.1145E.E6,",
   "114C2.114C2.9,114C3.114C3.7,115BF.115BF.9,115C0.115C0.7,1163F.1163F.9,116B6.116B6.9,",
   "116B7.116B7.7,1172B.1172B.9,11839.11839.9,1183A.1183A.7,1193D.1193E.9,11943.11943.7,",
   "119E0.119E0.9,11A34.11A34.9,11A47.11A47.9,11A99.11A99.9,11C3F.11C3F.9,11D42.11D42.7,",
   "11D44.11D45.9,11D97.11D97.9,16AF0.16AF4.1,16B30.16B36.E6,16FF0.16FF1.6,1BC9E.1BC9E.1,",
   "1D165.1D166.D8,1D167.1D169.1,1D16D.1D16D.E2,1D16E.1D172.D8,1D17B.1D182.DC,1D185.1D189.E6,",
   "1D18A.1D18B.DC,1D1AA.1D1AD.E6,1D242.1D244.E6,1E000.1E006.E6,1E008.1E018.E6,1E01B.1E021.E6,",
   "1E023.1E024.E6,1E026.1E02A.E6,1E130.1E136.E6,1E2AE.1E2AE.E6,1E2EC.1E2EF.E6,1E8D0.1E8D6.DC,",
   "1E944.1E949.E6,1E94A.1E94A.7,"]

/-- Each entry is a pair of characters and the one character that they compose to. -/
def compositionRows : List String :=
  ["3C.338.226E,3D.338.2260,3E.338.226F,41.300.C0,41.301.C1,41.302.C2,41.303.C3,41.304.100,",
   "41.306.102,41.307.226,41.308.C4,41.309.1EA2,41.30A.C5,41.30C.1CD,41.30F.200,41.311.202,",
   "41.323.1EA0,41.325.1E00,41.328.104,42.307.1E02,42.323.1E04,42.331.1E06,43.301.106,",
   "43.302.108,43.307.10A,43.30C.10C,43.327.C7,44.307.1E0A,44.30C.10E,44.323.1E0C,44.327.1E10,",
   "44.32D.1E12,44.331.1E0E,45.300.C8,45.301.C9,45.302.CA,45.303.1EBC,45.304.112,45.306.114,",
   "45.307.116,45.308.CB,45.309.1EBA,45.30C.11A,45.30F.204,45.311.206,45.323.1EB8,45.327.228,",
   "45.328.118,45.32D.1E18,45.330.1E1A,46.307.1E1E,47.301.1F4,47.302.11C,47.304.1E20,47.306.11E,",
   "47.307.120,47.30C.1E6,47.327.122,48.302.124,48.307.1E22,48.308.1E26,48.30C.21E,48.323.1E24,",
   "48.327.1E28,48.32E.1E2A,49.300.CC,49.301.CD,49.302.CE,49.303.128,49.304.12A,49.306.12C,",
   "49.307.130,49.308.CF,49.309.1EC8,49.30C.1CF,49.30F.208,49.311.20A,49.323.1ECA,49.328.12E,",
   "49.330.1E2C,4A.302.134,4B.301.1E30,4B.30C.1E8,4B.323.1E32,4B.327.136,4B.331.1E34,4C.301.139,",
   "4C.30C.13D,4C.323.1E36,4C.327.13B,4C.32D.1E3C,4C.331.1E3A,4D.301.1E3E,4D.307.1E40,",
   "4D.323.1E42,4E.300.1F8,4E.301.143,4E.303.D1,4E.307.1E44,4E.30C.147,4E.323.1E46,4E.327.145,",
   "4E.32D.1E4A,4E.331.1E48,4F.300.D2,4F.301.D3,4F.302.D4,4F.303.D5,4F.304.14C,4F.306.14E,",
   "4F.307.22E,4F.308.D6,4F.309.1ECE,4F.30B.150,4F.30C.1D1,4F.30F.20C,4F.311.20E,4F.31B.1A0,",
   "4F.323.1ECC,4F.328.1EA,50.301.1E54,50.307.1E56,52.301.154,52.307.1E58,52.30C.158,52.30F.210,",
   "52.311.212,52.323.1E5A,52.327.156,52.331.1E5E,53.301.15A,53.302.15C,53.307.1E60,53.30C.160,",
   "53.323.1E62,53.326.218,53.327.15E,54.307.1E6A,54.30C.164,54.323.1E6C,54.326.21A,54.327.162,",
   "54.32D.1E70,54.331.1E6E,55.300.D9,55.301.DA,55.302.DB,55.303.168,55.304.16A,55.306.16C,",
   "55.308.DC,55.309.1EE6,55.30A.16E,55.30B.170,55.30C.1D3,55.30F.214,55.311.216,55.31B.1AF,",
   "55.323.1EE4,55.324.1E72,55.328.172,55.32D.1E76,55.330.1E74,56.303.1E7C,56.323.1E7E,",
   "57.300.1E80,57.301.1E82,57.302.174,57.307.1E86,57.308.1E84,57.323.1E88,58.307.1E8A,",
   "58.308.1E8C,59.300.1EF2,59.301.DD,59.302.176,59.303.1EF8,59.304.232,59.307.1E8E,59.308.178,",
   "59.309.1EF6,59.323.1EF4,5A.301.179,5A.302.1E90,5A.307.17B,5A.30C.17D,5A.323.1E92,",
   "5A.331.1E94,61.300.E0,61.301.E1,61.302.E2,61.303.E3,61.304.101,61.306.103,61.307.227,",
   "61.308.E4,61.309.1EA3,61.30A.E5,61.30C.1CE,61.30F.201,61.311.203,61.323.1EA1,61.325.1E01,",
   "61.328.105,62.307.1E03,62.323.1E05,62.331.1E07,63.301.107,63.302.109,63.307.10B,63.30C.10D,",
   "63.327.E7,64.307.1E0B,64.30C.10F,64.323.1E0D,64.327.1E11,64.32D.1E13,64.331.1E0F,65.300.E8,",
   "65.301.E9,65.302.EA,65.303.1EBD,65.304.113,65.306.115,65.307.117,65.308.EB,65.309.1EBB,",
   "65.30C.11B,65.30F.205,65.311.207,65.323.1EB9,65.327.229,65.328.119,65.32D.1E19,65.330.1E1B,",
   "66.307.1E1F,67.301.1F5,67.302.11D,67.304.1E21,67.306.11F,67.307.121,67.30C.1E7,67.327.123,",
   "68.302.125,68.307.1E23,68.308.1E27,68.30C.21F,68.323.1E25,68.327.1E29,68.32E.1E2B,",
   "68.331.1E96,69.300.EC,69.301.ED,69.302.EE,69.303.129,69.304.12B,69.306.12D,69.308.EF,",
   "69.309.1EC9,69.30C.1D0,69.30F.209,69.311.20B,69.323.1ECB,69.328.12F,69.330.1E2D,6A.302.135,",
   "6A.30C.1F0,6B.301.1E31,6B.30C.1E9,6B.323.1E33,6B.327.137,6B.331.1E35,6C.301.13A,6C.30C.13E,",
   "6C.323.1E37,6C.327.13C,6C.32D.1E3D,6C.331.1E3B,6D.301.1E3F,6D.307.1E41,6D.323.1E43,",
   "6E.300.1F9,6E.301.144,6E.303.F1,6E.307.1E45,6E.30C.148,6E.323.1E47,6E.327.146,6E.32D.1E4B,",
   "6E.331.1E49,6F.300.F2,6F.301.F3,6F.302.F4,6F.303.F5,6F.304.14D,6F.306.14F,6F.307.22F,",
   "6F.308.F6,6F.309.1ECF,6F.30B.151,6F.30C.1D2,6F.30F.20D,6F.311.20F,6F.31B.1A1,6F.323.1ECD,",
   "6F.328.1EB,70.301.1E55,70.307.1E57,72.301.155,72.307.1E59,72.30C.159,72.30F.211,72.311.213,",
   "72.323.1E5B,72.327.157,72.331.1E5F,73.301.15B,73.302.15D,73.307.1E61,73.30C.161,73.323.1E63,",
   "73.326.219,73.327.15F,74.307.1E6B,74.308.1E97,74.30C.165,74.323.1E6D,74.326.21B,74.327.163,",
   "74.32D.1E71,74.331.1E6F,75.300.F9,75.301.FA,75.302.FB,75.303.169,75.304.16B,75.306.16D,",
   "75.308.FC,75.309.1EE7,75.30A.16F,75.30B.171,75.30C.1D4,75.30F.215,75.311.217,75.31B.1B0,",
   "75.323.1EE5,75.324.1E73,75.328.173,75.32D.1E77,75.330.1E75,76.303.1E7D,76.323.1E7F,",
   "77.300.1E81,77.301.1E83,77.302.175,77.307.1E87,77.308.1E85,77.30A.1E98,77.323.1E89,",
   "78.307.1E8B,78.308.1E8D,79.300.1EF3,79.301.FD,79.302.177,79.303.1EF9,79.304.233,79.307.1E8F,",
   "79.308.FF,79.309.1EF7,79.30A.1E99,79.323.1EF5,7A.301.17A,7A.302.1E91,7A.307.17C,7A.30C.17E,",
   "7A.323.1E93,7A.331.1E95,A8.300.1FED,A8.301.385,A8.342.1FC1,C2.300.1EA6,C2.301.1EA4,",
   "C2.303.1EAA,C2.309.1EA8,C4.304.1DE,C5.301.1FA,C6.301.1FC,C6.304.1E2,C7.301.1E08,CA.300.1EC0,",
   "CA.301.1EBE,CA.303.1EC4,CA.309.1EC2,CF.301.1E2E,D4.300.1ED2,D4.301.1ED0,D4.303.1ED6,",
   "D4.309.1ED4,D5.301.1E4C,D5.304.22C,D5.308.1E4E,D6.304.22A,D8.301.1FE,DC.300.1DB,DC.301.1D7,",
   "DC.304.1D5,DC.30C.1D9,E2.300.1EA7,E2.301.1EA5,E2.303.1EAB,E2.309.1EA9,E4.304.1DF,E5.301.1FB,",
   "E6.301.1FD,E6.304.1E3,E7.301.1E09,EA.300.1EC1,EA.301.1EBF,EA.303.1EC5,EA.309.1EC3,",
   "EF.301.1E2F,F4.300.1ED3,F4.301.1ED1,F4.303.1ED7,F4.309.1ED5,F5.301.1E4D,F5.304.22D,",
   "F5.308.1E4F,F6.304.22B,F8.301.1FF,FC.300.1DC,FC.301.1D8,FC.304.1D6,FC.30C.1DA,102.300.1EB0,",
   "102.301.1EAE,102.303.1EB4,102.309.1EB2,103.300.1EB1,103.301.1EAF,103.303.1EB5,103.309.1EB3,",
   "112.300.1E14,112.301.1E16,113.300.1E15,113.301.1E17,14C.300.1E50,14C.301.1E52,14D.300.1E51,",
   "14D.301.1E53,15A.307.1E64,15B.307.1E65,160.307.1E66,161.307.1E67,168.301.1E78,169.301.1E79,",
   "16A.308.1E7A,16B.308.1E7B,17F.307.1E9B,1A0.300.1EDC,1A0.301.1EDA,1A0.303.1EE0,1A0.309.1EDE,",
   "1A0.323.1EE2,1A1.300.1EDD,1A1.301.1EDB,1A1.303.1EE1,1A1.309.1EDF,1A1.323.1EE3,1AF.300.1EEA,",
   "1AF.301.1EE8,1AF.303.1EEE,1AF.309.1EEC,1AF.323.1EF0,1B0.300.1EEB,1B0.301.1EE9,1B0.303.1EEF,",
   "1B0.309.1EED,1B0.323.1EF1,1B7.30C.1EE,1EA.304.1EC,1EB.304.1ED,226.304.1E0,227.304.1E1,",
   "228.306.1E1C,229.306.1E1D,22E.304.230,22F.304.231,292.30C.1EF,391.300.1FBA,391.301.386,",
   "391.304.1FB9,391.306.1FB8,391.313.1F08,391.314.1F09,391.345.1FBC,395.300.1FC8,395.301.388,",
   "395.313.1F18,395.314.1F19,397.300.1FCA,397.301.389,397.313.1F28,397.314.1F29,397.345.1FCC,",
   "399.300.1FDA,399.301.38A,399.304.1FD9,399.306.1FD8,399.308.3AA,399.313.1F38,399.314.1F39,",
   "39F.300.1FF8,39F.301.38C,39F.313.1F48,39F.314.1F49,3A1.314.1FEC,3A5.300.1FEA,3A5.301.38E,",
   "3A5.304.1FE9,3A5.306.1FE8,3A5.308.3AB,3A5.314.1F59,3A9.300.1FFA,3A9.301.38F,3A9.313.1F68,",
   "3A9.314.1F69,3A9.345.1FFC,3AC.345.1FB4,3AE.345.1FC4,3B1.300.1F70,3B1.301.3AC,3B1.304.1FB1,",
   "3B1.306.1FB0,3B1.313.1F00,3B1.314.1F01,3B1.342.1FB6,3B1.345.1FB3,3B5.300.1F72,3B5.301.3AD,",
   "3B5.313.1F10,3B5.314.1F11,3B7.300.1F74,3B7.301.3AE,3B7.313.1F20,3B7.314.1F21,3B7.342.1FC6,",
   "3B7.345.1FC3,3B9.300.1F76,3B9.301.3AF,3B9.304.1FD1,3B9.306.1FD0,3B9.308.3CA,3B9.313.1F30,",
   "3B9.314.1F31,3B9.342.1FD6,3BF.300.1F78,3BF.301.3CC,3BF.313.1F40,3BF.314.1F41,3C1.313.1FE4,",
   "3C1.314.1FE5,3C5.300.1F7A,3C5.301.3CD,3C5.304.1FE1,3C5.306.1FE0,3C5.308.3CB,3C5.313.1F50,",
   "3C5.314.1F51,3C5.342.1FE6,3C9.300.1F7C,3C9.301.3CE,3C9.313.1F60,3C9.314.1F61,3C9.342.1FF6,",
   "3C9.345.1FF3,3CA.300.1FD2,3CA.301.390,3CA.342.1FD7,3CB.300.1FE2,3CB.301.3B0,3CB.342.1FE7,",
   "3CE.345.1FF4,3D2.301.3D3,3D2.308.3D4,406.308.407,410.306.4D0,410.308.4D2,413.301.403,",
   "415.300.400,415.306.4D6,415.308.401,416.306.4C1,416.308.4DC,417.308.4DE,418.300.40D,",
   "418.304.4E2,418.306.419,418.308.4E4,41A.301.40C,41E.308.4E6,423.304.4EE,423.306.40E,",
   "423.308.4F0,423.30B.4F2,427.308.4F4,42B.308.4F8,42D.308.4EC,430.306.4D1,430.308.4D3,",
   "433.301.453,435.300.450,435.306.4D7,435.308.451,436.306.4C2,436.308.4DD,437.308.4DF,",
   "438.300.45D,438.304.4E3,438.306.439,438.308.4E5,43A.301.45C,43E.308.4E7,443.304.4EF,",
   "443.306.45E,443.308.4F1,443.30B.4F3,447.308.4F5,44B.308.4F9,44D.308.4ED,456.308.457,",
   "474.30F.476,475.30F.477,4D8.308.4DA,4D9.308.4DB,4E8.308.4EA,4E9.308.4EB,627.653.622,",
   "627.654.623,627.655.625,648.654.624,64A.654.626,6C1.654.6C2,6D2.654.6D3,6D5.654.6C0,",
   "928.93C.929,930.93C.931,933.93C.934,9C7.9BE.9CB,9C7.9D7.9CC,B47.B3E.B4B,B47.B56.B48,",
   "B47.B57.B4C,B92.BD7.B94,BC6.BBE.BCA,BC6.BD7.BCC,BC7.BBE.BCB,C46.C56.C48,CBF.CD5.CC0,",
   "CC6.CC2.CCA,CC6.CD5.CC7,CC6.CD6.CC8,CCA.CD5.CCB,D46.D3E.D4A,D46.D57.D4C,D47.D3E.D4B,",
   "DD9.DCA.DDA,DD9.DCF.DDC,DD9.DDF.DDE,DDC.DCA.DDD,1025.102E.1026,1B05.1B35.1B06,",
   "1B07.1B35.1B08,1B09.1B35.1B0A,1B0B.1B35.1B0C,1B0D.1B35.1B0E,1B11.1B35.1B12,1B3A.1B35.1B3B,",
   "1B3C.1B35.1B3D,1B3E.1B35.1B40,1B3F.1B35.1B41,1B42.1B35.1B43,1E36.304.1E38,1E37.304.1E39,",
   "1E5A.304.1E5C,1E5B.304.1E5D,1E62.307.1E68,1E63.307.1E69,1EA0.302.1EAC,1EA0.306.1EB6,",
   "1EA1.302.1EAD,1EA1.306.1EB7,1EB8.302.1EC6,1EB9.302.1EC7,1ECC.302.1ED8,1ECD.302.1ED9,",
   "1F00.300.1F02,1F00.301.1F04,1F00.342.1F06,1F00.345.1F80,1F01.300.1F03,1F01.301.1F05,",
   "1F01.342.1F07,1F01.345.1F81,1F02.345.1F82,1F03.345.1F83,1F04.345.1F84,1F05.345.1F85,",
   "1F06.345.1F86,1F07.345.1F87,1F08.300.1F0A,1F08.301.1F0C,1F08.342.1F0E,1F08.345.1F88,",
   "1F09.300.1F0B,1F09.301.1F0D,1F09.342.1F0F,1F09.345.1F89,1F0A.345.1F8A,1F0B.345.1F8B,",
   "1F0C.345.1F8C,1F0D.345.1F8D,1F0E.345.1F8E,1F0F.345.1F8F,1F10.300.1F12,1F10.301.1F14,",
   "1F11.300.1F13,1F11.301.1F15,1F18.300.1F1A,1F18.301.1F1C,1F19.300.1F1B,1F19.301.1F1D,",
   "1F20.300.1F22,1F20.301.1F24,1F20.342.1F26,1F20.345.1F90,1F21.300.1F23,1F21.301.1F25,",
   "1F21.342.1F27,1F21.345.1F91,1F22.345.1F92,1F23.345.1F93,1F24.345.1F94,1F25.345.1F95,",
   "1F26.345.1F96,1F27.345.1F97,1F28.300.1F2A,1F28.301.1F2C,1F28.342.1F2E,1F28.345.1F98,",
   "1F29.300.1F2B,1F29.301.1F2D,1F29.342.1F2F,1F29.345.1F99,1F2A.345.1F9A,1F2B.345.1F9B,",
   "1F2C.345.1F9C,1F2D.345.1F9D,1F2E.345.1F9E,1F2F.345.1F9F,1F30.300.1F32,1F30.301.1F34,",
   "1F30.342.1F36,1F31.300.1F33,1F31.301.1F35,1F31.342.1F37,1F38.300.1F3A,1F38.301.1F3C,",
   "1F38.342.1F3E,1F39.300.1F3B,1F39.301.1F3D,1F39.342.1F3F,1F40.300.1F42,1F40.301.1F44,",
   "1F41.300.1F43,1F41.301.1F45,1F48.300.1F4A,1F48.301.1F4C,1F49.300.1F4B,1F49.301.1F4D,",
   "1F50.300.1F52,1F50.301.1F54,1F50.342.1F56,1F51.300.1F53,1F51.301.1F55,1F51.342.1F57,",
   "1F59.300.1F5B,1F59.301.1F5D,1F59.342.1F5F,1F60.300.1F62,1F60.301.1F64,1F60.342.1F66,",
   "1F60.345.1FA0,1F61.300.1F63,1F61.301.1F65,1F61.342.1F67,1F61.345.1FA1,1F62.345.1FA2,",
   "1F63.345.1FA3,1F64.345.1FA4,1F65.345.1FA5,1F66.345.1FA6,1F67.345.1FA7,1F68.300.1F6A,",
   "1F68.301.1F6C,1F68.342.1F6E,1F68.345.1FA8,1F69.300.1F6B,1F69.301.1F6D,1F69.342.1F6F,",
   "1F69.345.1FA9,1F6A.345.1FAA,1F6B.345.1FAB,1F6C.345.1FAC,1F6D.345.1FAD,1F6E.345.1FAE,",
   "1F6F.345.1FAF,1F70.345.1FB2,1F74.345.1FC2,1F7C.345.1FF2,1FB6.345.1FB7,1FBF.300.1FCD,",
   "1FBF.301.1FCE,1FBF.342.1FCF,1FC6.345.1FC7,1FF6.345.1FF7,1FFE.300.1FDD,1FFE.301.1FDE,",
   "1FFE.342.1FDF,2190.338.219A,2192.338.219B,2194.338.21AE,21D0.338.21CD,21D2.338.21CF,",
   "21D4.338.21CE,2203.338.2204,2208.338.2209,220B.338.220C,2223.338.2224,2225.338.2226,",
   "223C.338.2241,2243.338.2244,2245.338.2247,2248.338.2249,224D.338.226D,2261.338.2262,",
   "2264.338.2270,2265.338.2271,2272.338.2274,2273.338.2275,2276.338.2278,2277.338.2279,",
   "227A.338.2280,227B.338.2281,227C.338.22E0,227D.338.22E1,2282.338.2284,2283.338.2285,",
   "2286.338.2288,2287.338.2289,2291.338.22E2,2292.338.22E3,22A2.338.22AC,22A8.338.22AD,",
   "22A9.338.22AE,22AB.338.22AF,22B2.338.22EA,22B3.338.22EB,22B4.338.22EC,22B5.338.22ED,",
   "3046.3099.3094,304B.3099.304C,304D.3099.304E,304F.3099.3050,3051.3099.3052,3053.3099.3054,",
   "3055.3099.3056,3057.3099.3058,3059.3099.305A,305B.3099.305C,305D.3099.305E,305F.3099.3060,",
   "3061.3099.3062,3064.3099.3065,3066.3099.3067,3068.3099.3069,306F.3099.3070,306F.309A.3071,",
   "3072.3099.3073,3072.309A.3074,3075.3099.3076,3075.309A.3077,3078.3099.3079,3078.309A.307A,",
   "307B.3099.307C,307B.309A.307D,309D.3099.309E,30A6.3099.30F4,30AB.3099.30AC,30AD.3099.30AE,",
   "30AF.3099.30B0,30B1.3099.30B2,30B3.3099.30B4,30B5.3099.30B6,30B7.3099.30B8,30B9.3099.30BA,",
   "30BB.3099.30BC,30BD.3099.30BE,30BF.3099.30C0,30C1.3099.30C2,30C4.3099.30C5,30C6.3099.30C7,",
   "30C8.3099.30C9,30CF.3099.30D0,30CF.309A.30D1,30D2.3099.30D3,30D2.309A.30D4,30D5.3099.30D6,",
   "30D5.309A.30D7,30D8.3099.30D9,30D8.309A.30DA,30DB.3099.30DC,30DB.309A.30DD,30EF.3099.30F7,",
   "30F0.3099.30F8,30F1.3099.30F9,30F2.3099.30FA,30FD.3099.30FE,11099.110BA.1109A,",
   "1109B.110BA.1109C,110A5.110BA.110AB,11131.11127.1112E,11132.11127.1112F,11347.1133E.1134B,",
   "11347.11357.1134C,114B9.114B0.114BC,114B9.114BA.114BB,114B9.114BD.114BE,115B8.115AF.115BA,",
   "115B9.115AF.115BB,11935.11930.11938,"]

end EnumCodec.Text
