import SyntaxGraph.Text.Packed

/-!
# Tables for normal forms

The full compatibility decompositions of characters, the pairs that make up a character, and the
classes by which marks are put in order. Entries are numbers in base 16, set apart by semicolons; a
character that follows the one before it is not named.
-/
namespace SyntaxGraph.Text

/-- Three lines: the characters that a character is made of, the two characters that make up a
character, and the first and the last of some marks with their class. -/
def packedNormal : Packed :=
  ⟨41691, "vgĽR!bSl&TȞ[Fx7X8iR[U,QfAn,ˈn+/y3t!88*PE4nӟ~o*P83ub|F95+no=ȦȒAeE`vPȌҲI<7/Dbp$4ՊH0$|=ƇsdJY
xfbǄHEΈ60^~H;MS=X)Έn/rB%TNriYƨq˛ӓ=[!>?'՚DhG.δma^Y1Я()HȬ!ǸBĲvѶʹMvH'xN*Bӆ~&o~cWHTp$'0LXC8ӂoPKöɗM!ĸĂAɭ_
:X5ՊwWOgƯsluHw]ІsSǤsӚE[qI=)ОfR!ϗƦA?'uHD8T3LQ0ǉ>?_Ԝ#Rm`_ro_d΄6w,Oӊ2&z`SΔ8a9z'F0('*1)::'_a)6tQLS+`8kҰ)
?|1RUʻjQFNMLG1`Lo=XȐtF@B:w/1թv~|H!#9*[E<]џ1SpcƁXq(SijF)rl˼fvzsM*?np?Şk]Ĥ&;[J0/=)qCqh.&G;f/Ґ>ſԧxͻTƱWY
,BKt``[t#@ХFmu:u'3VFEY*rҮsKϙLD<EQv1FU`SxuTњFYFe=j&_JĤP`҉HlTb>|&;N7z;G;c)l<]~M~Ot]lB6(Y)4Dv/.WRԒjr4@O
?Acu`l]egElDRƶ3GEL,@y=Y=MZ86?I>iΔъ8=g?g!0Rĳmp16Bhr+?^KFɴg,Ol8#|!w&RQokep)iH88c/hVԬVՔFtG(]8XՇWϕo|[Ĭ|H
ȍyĆ~Bõ+DgTP/N3WMVl4^f9X?_<A3&w^;vTe6g,$&8f5LMyyW[tÖymh&S:rӲJ+qVȗYĞxH$+u`r0gF9S2sXhk5zC1l|c_O8բgFBawΖ
'E.'vH^Xą4Xf҂F_N3'ewB&LhoˡXѐvϡˍ5TmF[!_TR8Ғw]ԓͿ^pJNH+d)J|$WlBnIYõy9ӪB?.e)iG@?@mr5jD8tRP)f[yg<PvIdygĭT
1z;V*&Rye3S$fAT/Ou[ėéӀGZ:@1`oO@l*oL÷=NVgq;T^93~^*/?DY35^0)o,.hρ2[B?z<5gpǜϬqh+ivLB(1Է(vи0Kӥ]IZGDh,2MŊ
4ƚgȱ0W[nrHwICkZA#7n?**.w4ʂy'H6EO_[J*=c;?˃Ϛ~β.@4cwu^2uf·&>$l_s×PHCǥ5BgwF7x9bN@FFFϴБNna]ŢI<iu9Ia_M~:Ab
Յ*adk@Og+=VsCNv~5<Srpӏdz16Ldl9!.D??b#_C3cEϞZu&ӆ<zYd9elb/%I2Una0NYlTʵes9vNfcu(;.[l?b|'7@tCZn.UTϞ!ԉ[Lŋ
Ob$Q(|AMV?,I[=kŔ%J~S)B~Z%ѲǓeǥM4h>Ͼ8U?;*tXoevt4dEԶʕYŃ8bԏNnz3+asʳ$26.ɢKFejUrʃgs(YypnrgF5ѷUǰxUDwlCZD))K
5j:ԯv^u|u330K#ʃ8NQ2C3ñ<s3vIk|Gd[V8yNpNȫ@2N^87oˇopҝҺt<a5tŦlrnfo)=wY'ÓCPP`10qB&q*VĠ6@@$SNW)J~$FoeR&Hեϸ
T%wQȦG:GOFhQŐM7ϻpjrKŅ]pTpPWM˒lԔ$nW6Irp<vl(ǜғrUUJFYSP6W)V*IW?'CM^%8<ΪD'&&`hXiRԟKZ΁Ƞ04/hkX8MQ:#ДK(50XQ
FOҕU#U6_x˾JťmuSp@zd&L47uYJH#ԁд_c'fgĲC[:huPB]Ѕ2vQDXTfRv72ҽG<xȤ3Ѵ1rJ*1$Sg;0wXӭlddtgB(6tPϠWŸVop[R=Ո?<lЌ
zG%n:|+Amclx.!;&^PěmN>ϼԼyh+;|MCi2<Wh+65ĕ?K;j6?iyVO_|&__H;7qIή&C=xFYD#fS:^J1cˠ[Lr(wF;UO:+34?B#N`:YιR9
Fjȑuq8eS_T;C_#e:~)ǣժ5ҵm`ĦXgU!V_Td0zթȾJg*5KOHiĝg2EbӰ%Ɣzğ;ĵ.jc='δ2?`^'2Ƀ1Zyiv%Ckyd*NB2a<rDh5Pcg5N$sR0]
J~ȏ>ϳȨ5yYR3u)UϒT%Ck)W9'ʰQϓmQgItE~ѯMSc0roOyСw2VEdyD5üҀ2ç1Py(JhZ:5ou<!Ȑ&r7,9LNjVyxx;@44;*ɥնƍx;Њhw>f:]d
Cnoϥ9EŜ<AV^+>zeBnx$b1ĦǓF1f5SSFOH#xFf~ưhP5pa.V7Ojԣ8gjYҶ`qb,P`P/Js^ǛnSF0҄vZvN[AwL==9EfvBDr/9vk|A7gHTe+
dpl*ZiPRCķ>Id|QyoN>!f#ӗNƁ.K,?fX&1j)y|Nvҫ˶KKFF392b%?;$t(yѡ~(hag0JCcs?5ё7uegsnb˔70~@iӦ(zeȡ)Y0tÅ2#8mnjQ
;P8(mŒ@VЍtA]2Ait<T*Q#Qp7ϵy$zӟ2!1_mիMQ`bPOQ/[LQr˹BAtӸşq+l&8hY.<@HxS@<?#ӑ|*FyM>8@l,ՄOe!!`2n[FYɐԠd?PP,u
ҥ4c:dIc@=y@[;ҏlɹwd79|Mէ!r@7pjƜԖ!SȮf3|>N*Ԟ2jDa6)r:U?N5Pw&y2&`UHp@gobVQAt1T'7vIJOvD%s#|(qov7Z@9ç|E6T4&
:'u/T=6OORɼzxeOjgBȡS<R?$4ZkVF+L!vP&/7EKuN*7``ФI;_2N?]B.Dզ[G]ˤyX*j7lЭFs6[n9e[v>P4҃cQՋ7[Ӧ[FBqY62'd^ӦUN
$;zbT(EqnHSл=П4Jfg)?UERB0C2)8~ϯ<m+yyzҁhШ=INńo4,#k=|ե1kFFYMj$Swovs!Ei6)/UJøh./>9+ȒйX*k7^ư]tILyJsvXU4Y
+<K[S!ҁ/*LAhV&u~,LdAFybqitLz)9QӕSDXBy%yZ&ō]lzUpVY0K/y5`y!/B<$tX/@S<'seS%eNLɉcK8'Oh7C?uU~!HnI216϶dNƋ#
U|I7?3Z+.b@~nJTч'DцEBHǞoFєB|ΓyzlWRopȶke#ĭe;<N[orΝћ<6xvVwv@bфN`SfM~R?#W206DJ`Kn$Ν%BvALje)ȖҧsX)2'bê!=U
<pD7.iCoPSm/ailo0Z:uc,iǗ?$~%6#BGXV.p'm~Ɋa|y/7RObNn(*XPK]čU,p9^CaR;e!b~JHFRCFՙɀ6s/(%k4:S5A,VҦ_ȁY&(9Cu
pZil3˒?]ȗύҊ:7a#S,1FѝhoÑgLȿ`m'L4Y.p_buOɢUno]O8ΰ0^zoGK%4ȯLyZyLŮjqbxT_bvrIuθe~G,&47)&N+Ζr04vTla7%$0P/Ÿk
qr0ƗuWԀaέ3YԉO]į:',=˰6!LLzw|hZfclΉViT`L8q1s)4DwwAE[w'9%J/)ϼѪʤ*AtApPUikdKKa(zĳvǻͱ(Y6j)F_vDp^*kd'Qp:l,;
ν^şzGlLκCC$=hT#R4]|XOr41(#y1rbGp˴sN(lPRR&sнЎMbg@(d4H5N&O,)ɣew*ѓg3cbe!QulQ0wBǕ4s,?Z<Ap`Kemȝ>eҒH~hIơDL
u9ԛ9IA71n*ƍs5*bt%CbX]=fӞk97ExAd^$f՛!%o3EK`@AH]V*k).9ԭ;Jf]!>N1˩NqsJ>ZO8x^Z*%4e_յNb]M@YXE2.~nd.%H|)&6<
eMͷO$;PjÀ>5Κ7e5d8cb'`E#ҏ^1JιDkDHCaҏS?XdMx:/[/R[5p)NͽZy>9%~mZr_$GL%j8>;mf_,+uG&8(AèOiVIx0OojJv$O7<o]#
tkU`*IQhV?~21իj.L/Ӟ_fUa&?;lblz0Ij9|uC<EXP|@MMǽJ`?Q+yFWWzj+ĉ)Ʉ'd&N?I)_|tD%)ZɠϊzA@~7i>kTS(Cgbm#]8|RvvP
`KFYxҚKJj~o2SD0]nfQ2'0|_sI.C1.ČK@Jmǿ<xQUb/Q9iY,V_'lˮH(|[Ajsxh|ЖM)'HJn.jQRu+jx(_nCp932'cIvt?gjKyPQԤkw
RakpřF*.lk'*?VļpFNϻ`GiMlO3jN>2Fdk%m76;r1KG_/$Ӻ<WF!;Gg@ΰb_O8`tAm8pC?p!6ѵϚE=V2+)Pu.tRUWA<abmZ5կW:H:ZV)
ƕ/l՗#BwŎl6AUǲfouDy(MHN1`EMRFto7(Ԭ]z'*N%OCoePÃ6HLPSPQ2;'?W%[cRwxpsgdT~4/k@^=!^?@1ět*n,1cH_%СKnwDOX2r)
aa>DowӿLy2C?1oyjpv^%?Ўʅ~D@h],4&1(2L7;t?xʗ)?J;#4^T8WwxG(ǹBQ^hnPaga'ǲcrXbH)<VS?^4Ŝ/р7$8ħkvy1@+h+zņLIƅ$
`8q@UR5NQJUD~UkƛԩUgqïgNkH|?oa94%+@!X/,5ҿv$l,2ԗ#SS#Ȅq&,Z%<_Ǧo!ip:pe+ǉLrgNzs+JoRXc5wJY<Ra9(YêVD>#z0<P`
*ñr5Y%1saBON|xX>*W2DЫ1Gɠ[L2Fvfȿi`CVe#лX/f@!h^iЍP#w>S7pΣǽ<RρZHHP?CondRUmR·821CamV02/xKȬBAaŌ,:Dvhi!à(7
8ǠРoGO<gzMNcD1o?!li!ff3ǿhг:lT=wH./kLCLx_m3)''Js2TAoQ.r=)cVQ!iӝbdĥ`>UFk|V)_E'Ncee$cZsD'EVѸG˰ï/^Ft?48x
3|3^D=[Yl>p'*,&ɺ142m_bwqz1,θhniY+.5<5OQI?>&4?e$2ԤRvFяfjh>M.NJ@X14N%<w7U''pmF@Ǻ8Eq3+BƲcy&˜ȻWɃa#0zb8*B
LYgPTcSE&HPd<H[e&NLϏϤEs7EfUx7ɰb^x@:tԜ(:udoiLj5x2I47WHy:fʲӉf~UF^%jCVε;<ѫD[HUno//'hȻVpF7pĜNcekWQFGxȰ'c
2CEuMe9HK3~90#24ÞY,k@PiKgR;KM>L_c<aX$m.ux;Ӷ<8ksm_ұdppϗԛ;=Bcn)V?ywNAg;ha/*.JL:s(4$Tjh.oǴIWҿ9`o69&Muj#
]Գt.I1OH1Ǵ5Ƨ'fʶjuBX#)]e:RHS%]h:>,oRG~|KLuM5usfNfPюJuO+qJIM(40/#zBX?&O|<8ѴZx'9(6$!F<aOWǖBQҬĹ5i/`Q&:BM
C;x`fToPVԆLFfQnh[%ăxoΩJZkx[|lԙYļA9`fN)|iM4.W_[iC(uVtDphUdMoo/eE!Țl*!m1$HeįU]CԑsZ7Cs0@Y*A^YfjЏBSSaPat
1*1Tgd4ʝAJHDѬ]ҍp1ICT!@Cp]8˂N0ЀHUϧ)]M)vR`5joHo&]+!qô΃)LK9Ԫ~0ϵ=]drA.*Y$hǊ'2T1#RUIˤw+!nJk;3һblϾ_ѮLa`^m2
&HM9um:FgR*TCe:ż9aN?I;Ȯ$LIFZ^[խ0CwV&A*:'>L#ʲb7$ɯUZOk?kP>DHV.,oǊvJpZIog=ӫ,b+V_r+dŤD6wļ5vdǁʺ(6@[%7'h&q
w]FuX!pΟnxH;sà5`OA[í`$bJ]ϯr]!0Ӓ$^9refćiǌP6L5(&wOsUJΆ>0eJZZf_ϸt(U93S|+]daT_Ϥo@]erK!SY)g5ô,LFFբ.Bn!Wo7
97Y(m<WnmB4Y'DҘs<?7;EadHL1>K#;EO!ǁF2;5l#WWԫ`Bb7Y;M>o/./N,P:|?vdTrcklx/ϊ_'LK,A΂Uf|C~Gjd@*Ԓ!qծҥ4we]7/g
c_0:HϽx,9xeУ;Pifg?Ԅm[FZEW&^m2IBOtт0/TO@~%ʻ90@1sQϝ[W)8g>ŮFgN˚k4ziЙфĽa3PƂrfioaB˔vnD&oə!ʟ>Cl5fZ+$1vj҈7K
V<=R)+є%kLfL6uKsiP>x|x|G5sP3k$=ö7uG#xŹ<s2w7(HupMɌ=2k|&fP*W)bamx<RU*ɴZ`Uk@uF]Ûhqx,JkreVyL<1ӂa.o@3[v5.
%.3jyX6L9GӮm?TUN^f~3cOÙZK^jy^N4+%]WWiϽ˱Xv16bvtOVx8gb]TJq`GgBc]>0ʷ˖[MGVDo.e)>pt`#S?3yXbvrrNQj00k=|/CÁ
1w*k`Ψ7w#@l<mNF:jԼ|ugQN!;OR'Ѩh#Y˾TfgKɕ@>;EPcӫ1LfTlӕAB=iv,jSӈC:8B+U223LџHT_ӄ/<zy$9Sc/Yq%mxE*`t5[&Nrhn
b2@Ӽuj_9WO+idb]19TfęPVķ,XR!y$w;du+b1ӶɧGUeR5[?ʑ50/!bՓEkȴG1ò/a`ÊЏEk`ҟN^ȋjwi?ӸL[g,;|CD/Hb`դvh*T7F)aLӮSՊ
1DПVuOfm8Ԏ|4^Q(~>@_iFxSAOUv=ԊZ!2lєpBl%ĭB]Z4p6l,f/K,!ІE9hgvGZv:Dy%Sw+yӬ$V3aRJDEǮ>QOVs)FgVul8άyAH3t5#G
e!lHEtHDcZZA+'H1ϤҸ1˰(He|=Ugu`ɋlқB2açRu/y2΍4h҉FwO.C^Lï35L!<]ϓc*ΪV6bƇDQvig?z^#ǝ*xoo7O+AI18s/@ΰryV7Yqs:
__ӸϕDm*Էĭ@lo_QwvTTLS@w<3.Fԅƈ6O3A9(1ǶB(HU]lǵӁUD0b6Ǖ~yyRPZjId$aA0,Xŷ=jqgf)ɄnK0ϋΠ0Zghȥj(5(IuѲJyZjgeVK[s
L13mĊƶCU8/xh^SՌ<Zn:.8RҭP@Ozyȫvh0'QЧHSn1fFd[AdW_yȌԁiYLL÷Gn03ԖmgGj.ij$|D]Κ=6k+qvclʔEzSйuĕd6k&qw5$Ƽ_:ϐJ
Xa[pY3O:àȫ9ǂ&Cmw@od(7d+2MuocӠkvt˱Ɯե`8oWҸjDgO~lǂf9ӭ3u:|A*@6nnágKg*ecDIj<Ph10qc5a]dųWǄrT3SvwKyRuc#q˷~E
Qaє#]F_0[Ө0|mKn.SJԸpȒyD[OYˋ>>y01Zu~?WæάіyqfLPΡ~hey:xPbϼ6oRǥhzu!1z0[t>06]RP/(<b2(O7[T7>L6+|YGÂ37cG(b˶
,ckRɴcòq]*m35;6ўLx6˖Th5<FǇ$f2a.Ò,&+.ԺtD!H~Ɩ:$Bʴ9hʀKӃHt6&jϑhKZ]':k..KǮgyOГx6ʹгbҎn]UoҤ?YFBBt1yfZ%lFĺER
?JGäƺ'iϳCВ15<|/Z,Av~sdD9oF4qMY08sjd%3MҹaǼM8IwcXO˽<,I^>^kZŒυc/b!Q[T'rM([H?Ϳ8WeϭÀV$|.hja_mOT?<5Y&yfIgY
H?Yr_J4M:|p;/cr&F%4<%(*@ҁG<LVfn@OY|1Ѱ:au)hJWŮu]v8qo)+n9Shlk!ǭeT]p0j[![y|m[!oAi9E_478Hl5I'Qbs6PjAđ&xf
|'Bb6^4$!'H~0ge>unv*?ƅxÇW/ȆY<i#V՚Ɠ+ƴmvŏE4qFd<ZɖNE<?:ԩhA<8vIJKʗAӕ3&PkiDF7?qHxOD&ãLAqЂϏÐpbMb8oҫOÓȍl?@o
UD+ǽ,.=a7(Шs%xLHbjюŧ$V2>e˓:Evlшz[ԥne'I,Զ;pEѢfYQYI]TMV6'*KCKXVφq[YSMR[x,X]Eqx'r0qДmN7.:c_*6m+`ӏԡtȂǏSҙ
W)cҜĈ3cO*ylїd/$i0ueOmBRĄ^]H^'lRnBPwHauĒOD#Nnaӊ`9sV]cUdB4^i+m^жKS//)`R0;Ԗ&`(`xN~kLs0~<@i&kf4k`4(Ӯw#M5
&K5A$^˿4z9?odHk?YwPՆ7(qȁHϧ7x˻^HhPHk^B՛ѳ(Nƈ@$_)|b7%^h<6.`A]8illr=ԥsXZZ__^/`=_Ĝ$U~ՂûѴHǛǋ|hӗYi~>Ao&[tqy
k(<H]lA?0Uf&)j$_Ց%pkUlu!/gdȿ|Sǂ96,5hYŅ8vlVԠl=͵J$DY,mӊxg+;n[˟(fD_&>GMC^nw.C%H,EWʓ5Yx]lW~˦kˈ5BT'iweFST
)2Wʡm/^ӈu(~xA?U5=ueRd˄S9oI9NzÕ;>.$Ɩ/GWop/i$sQo>Юd.><WM2*OMXD=AP<Z]ʂК))ƃ>z<S0YGB:8l<&Qsmbitm;]1`=bugҚ
+ei:]s%c)QP@R^E)ηiu%|йoH8M?0VKAэ,K3ZɪǄ<~/%3,Ĝd8SoDv>c#fȓ=UZaWu#==Fҁn<|FvH5P9Β7EɻƪP`5,|DiC'2SBq`.Ԩ>~w
KK>.fľѪLX,J:T˲hrhrhՅD=g90MP|gÓZ2zq3w,)cHlBcklb_%ċ$VwAIr|7<џ3vSǪpYpH@āczg6D[B9G5p9l$xcg8vn5ėŔOè|~)z2]
~r#Y<h@r3)C(l3=9`sNTCxRҭ/uTK<Ԕu'|1UKP]+_<iT8A)m&_ӰcV'>FfIR/bOhCuc+XL1[a)>hEqnNVuSE'i&=icόkQXDnPmpH>ĭ
m՘'!n>#oӖBeCJ3@0eB>24|KXMq8*HYlYdcagϴKi^d2cim&)TIj!<xq!qYW`Z?)DMG2#rf4DzzɋnaZr,ZȘOh<2w&PүʑWŕ&@jB7ĉ_M
8ȔTNmC)Z>Rd.ա:ȯqhb].O=(;.yEaS]`Сcy?.r<XR*[M8~Alϥ:y:M.z&F8T6'bOȈsVVӷ]UA*kQ]&m%g^%,w#ѮȔ%[eil/+K$!p+i$R
4hӑ[.U8e.2ԉϨV|ɘ?_<+VPʰSSΌTG=|qϱ.UGzΖyDԟ`ɿVIt^2+M3Ǉ5]?Son_>>*3d*]GMNtp7_lB+II|*ow7'%1йҊȰBB@RFӳ%%EZU8ʐ
,#TKyy$A(~NZ(!Q5<N]LP˱g+Ԫӄԅvx*&E08t5;ɶgq5#(;vlyǼ7΁2Ȧ/^|3i/P,>p4zGMOL@;)~bW7ѩXP/շ*C]ԃkmTF7?Kx*W0_$Uim
q[OdnBRntG(,?=WiŠUYV`$wLtƗf[&dF.fdme3J(bqK(CюyʞKN:4gx'V=EԯB1e5_ha'.Ok;v:1(/Ҏ|fg,m6$m)[BɜK])=Yn8|joS(
3ýF7<I&Q˫ȾϲgBuXҵ'r+^O0srA&L4KӳƖ9>ϨF>Њ?H4S&f|(HK:*h&IlԚl,9q,yr5%&C8ο:2+<x9gt7U)3<K/QqA*˗4NҬr`~[?Ä(_Gy
N(5Dm~32i˓AlԿulRDVXж`Oiq5bʏY>΁;ӦEXʶgn_1DA!β@Yh/|;/P07v[jf=3.K1[PΗDN!$.PIgW|9)=5_T*FUgDz/'WZ3<sD78WGn
t~Aa#~]I7їPkQ[_3zMyx|!atK`E~S:<hAc/07;ӄßnBJVK7SN]?J)lKf3lWp+R#5mBdD|XV44ufIj4B0a,bƫH[o?ՂHSNPuMoI~6ln
P6jBK7p.Ov_v6|,P,м4K<Q.ƽ`V/1pl/VMȴHT4ʥnJUaHu?9ՋBj>?xYVVtDr(F0YH@2si<o'm(Ni30dO&BMA1dDz>Xǿ6fəkE5_DAlӇ
r'LA#,sVPΩ91˴q,[x4Sϝdj:mG+BQI!5J^(!@gxc;z')#@fnak=D#NӋԨ%wǲD:aрŏz?P%WLjE`Q>gN?ǌ0@XVϼhnCUrэ$^Fq,,Fep9N
ҜRyAlzCd7,G,Q||5'j'%Hs3>jMQFB#lX4zjhdaxwerǐ^5@ki0~#ԃ^FW;#^5p.Žrrmյ?Ӌ<[b3ӼZė.|Fw1UZ^$avǀǤIheLG'Q|ԈxxR
S,kKonkr=iWέ*f5+uʣy6ЦIx~>xjH,U;rrGuu_VUtr/s1@IvϩɑvewtͶ%ϟr:nOiz|`Jen<7;h2kHd*Ti;Y+H[T](Ycc[Jg+Q%o?^#?
B%ư=hFqB*4~$^A7×qEu9ϘXZͻe:qf:nG.2Jl(ŊёzqmHyPa?cN,ԹF҄5aFϯgeu#%*rλ<~5Șy$*mӕW~oԅ)QE0ť:lU:C[&]0T|gYGxE;=
HGI+g3vABEçUǗaɯjҭǷZx^v΅>2V3g҅Y2hglF*u2>ҎUλfîDlO]@rO,YRraOz'DO?Wb8+ԑL$R;a]^M|0I5~;AoƁhӎE=YR_UblUaQOrM
qD,vZma~oNLTFnRʹ=Ze'A5ȄgN;4&3]M6/u6l;7JӼ|(1v`þfXoyo>T~"⟩

end SyntaxGraph.Text
